import TokenLifecycle.Digest.Sha2

namespace TokenLifecycle

-- The algorithms that a token can be signed with. Each is a keyed digest over one function of the
-- SHA-2 family.
inductive Algorithm where
  | hs256
  | hs384
  | hs512
deriving DecidableEq

namespace Algorithm

def name : Algorithm → String
  | hs256 => "HS256"
  | hs384 => "HS384"
  | hs512 => "HS512"

def all : List Algorithm :=
  [hs256, hs384, hs512]

def ofName? (s : String) : Option Algorithm :=
  all.find? (·.name = s)

theorem ofName?_eq_some_iff {s : String} {a : Algorithm} : ofName? s = some a ↔ a.name = s where
  mp h  := by simpa using List.find?_some h
  mpr h := by cases a <;> (subst h; rfl)

def hash : Algorithm → Bytes → Bytes
  | hs256 => Sha2.sha256.hash
  | hs384 => Sha2.sha384.hash
  | hs512 => Sha2.sha512.hash

def blockBytes : Algorithm → Nat
  | hs256 => 64
  | hs384 => 128
  | hs512 => 128

-- The number of bytes in a signature.
def size : Algorithm → Nat
  | hs256 => 32
  | hs384 => 48
  | hs512 => 64

theorem length_hash (a : Algorithm) (message : Bytes) : (a.hash message).length = a.size := by
  cases a <;> exact Sha2.Variant.length_hash _ (by decide) _

theorem size_injective {a b : Algorithm} (h : a.size = b.size) : a = b := by
  cases a <;> cases b <;> simp_all [size]

end Algorithm

-- A signer refuses to work with a key that holds nothing, as anyone could sign in its name.
inductive SigningError where
  | emptyKey
deriving DecidableEq

def SigningError.message : SigningError → String
  | emptyKey => "cannot sign with empty key material"

-- The secret that signatures are made and checked with.
@[ext]
structure Key where
  material : Bytes
deriving DecidableEq

namespace Key

variable {k : Key} {a b : Algorithm} {message signature : Bytes}

def Empty (k : Key) : Prop :=
  k.material = []

instance : Decidable k.Empty :=
  inferInstanceAs (Decidable (_ = _))

-- Whether there is any use in asking the key for a signature, or for its opinion of one. A key that
-- is good for one algorithm is good for all of them.

def CanSign (k : Key) (_ : Algorithm) : Prop :=
  ¬k.Empty

def CanVerify (k : Key) (_ : Algorithm) : Prop :=
  ¬k.Empty

instance : Decidable (k.CanSign a) :=
  inferInstanceAs (Decidable (¬k.Empty))

instance : Decidable (k.CanVerify a) :=
  inferInstanceAs (Decidable (¬k.Empty))

-- The key as it enters the digest: as long as a block, for which a longer one is digested first.
def pad (k : Key) (a : Algorithm) (mask : UInt8) : Bytes :=
  let short := if k.material.length ≤ a.blockBytes then k.material else a.hash k.material
  (short ++ List.replicate (a.blockBytes - short.length) 0).map (· ^^^ mask)

-- The keyed digest. It is defined for an empty key too, but no signature is ever made or accepted
-- with one.
def mac (k : Key) (a : Algorithm) (message : Bytes) : Bytes :=
  a.hash <| k.pad a 0x5c ++ a.hash (k.pad a 0x36 ++ message)

theorem length_mac (k : Key) (a : Algorithm) (message : Bytes) :
    (k.mac a message).length = a.size :=
  a.length_hash _

def sign (k : Key) (a : Algorithm) (message : Bytes) : Except SigningError Bytes :=
  if k.Empty then .error .emptyKey else .ok (k.mac a message)

-- The signature is the one that the key makes for the message.
structure Accepts (k : Key) (a : Algorithm) (message signature : Bytes) : Prop where
  usable : ¬k.Empty
  eq     : signature = k.mac a message

theorem Accepts.def :
    k.Accepts a message signature ↔ ¬k.Empty ∧ signature = k.mac a message where
  mp  := fun ⟨usable, eq⟩ => ⟨usable, eq⟩
  mpr := fun ⟨usable, eq⟩ => ⟨usable, eq⟩

instance : Decidable (k.Accepts a message signature) :=
  decidable_of_iff _ Accepts.def.symm

theorem sign_eq_ok_iff : k.sign a message = .ok signature ↔ k.Accepts a message signature := by
  simp only [sign, Accepts.def]
  split <;> simp_all [eq_comm]

-- Signatures of different algorithms differ in length, so none passes for another.
theorem Accepts.algorithm_eq (h₁ : k.Accepts a message signature)
    (h₂ : k.Accepts b message signature) : a = b :=
  Algorithm.size_injective <| by
    rw [← k.length_mac a message, ← k.length_mac b message, ← h₁.eq, ← h₂.eq]

-- Whatever the key, its description shows nothing of it.
def describe (_ : Key) : String :=
  "Hmac \x7b secret \x7d"

-- A fresh key takes as many bytes from the source as a signature has.
def generate (a : Algorithm) (source : Nat → UInt8) : Key :=
  ⟨(List.range a.size).map source⟩

end Key
end TokenLifecycle
