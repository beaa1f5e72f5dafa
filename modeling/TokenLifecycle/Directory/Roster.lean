import Std.Data.HashMap
import TokenLifecycle.Directory.Basic

namespace TokenLifecycle

-- A directory that is held in memory, whatever the target. Once it is offline it stays so.
structure Roster where
  secrets : Std.HashMap String String := ∅
  online  : Bool                      := true

namespace Roster

variable {r : Roster} {i i' s : String}

def empty : Roster := {}

def secret? (r : Roster) (identity : String) : Option String :=
  r.secrets[identity]?

def insert (r : Roster) (identity secret : String) : Roster :=
  { r with secrets := r.secrets.insert identity secret }

def erase (r : Roster) (identity : String) : Roster :=
  { r with secrets := r.secrets.erase identity }

def goOffline (r : Roster) : Roster :=
  { r with online := false }

def ofList (users : List (String × String)) : Roster :=
  users.foldl (fun r (identity, secret) => r.insert identity secret) empty

def judge (r : Roster) (identity secret : String) : Except DirectoryError Unit :=
  if r.online then
    match r.secret? identity with
    | none       => .error <| .refused <| .unknownIdentity identity
    | some known =>
      if known = secret then .ok () else .error <| .refused <| .wrongSecret identity
  else
    .error <| .unavailable .offline

instance : Directory Roster where
  attempt r _ identity secret := pure <| r.judge identity secret

theorem secret?_empty (i : String) : empty.secret? i = none := by
  simp [secret?, empty]

theorem secret?_insert_self : (r.insert i s).secret? i = some s := by
  simp [secret?, insert]

theorem secret?_insert_of_ne (h : i ≠ i') : (r.insert i s).secret? i' = r.secret? i' := by
  simp [secret?, insert, Std.HashMap.getElem?_insert, h]

theorem secret?_erase_self : (r.erase i).secret? i = none := by
  simp [secret?, erase]

theorem secret?_erase_of_ne (h : i ≠ i') : (r.erase i).secret? i' = r.secret? i' := by
  simp [secret?, erase, Std.HashMap.getElem?_erase, h]

end Roster
end TokenLifecycle
