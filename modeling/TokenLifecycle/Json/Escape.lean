import TokenLifecycle.Text.Utf8

namespace TokenLifecycle.Json

-- What a text is written with: bytes that stand for themselves, and numbered escapes, of which two
-- in a row may be needed for one character.
inductive Piece where
  | byte (b : UInt8)
  | unit (n : Nat)
deriving DecidableEq

namespace Piece

def IsLeading (n : Nat) : Prop :=
  0xd800 ≤ n ∧ n < 0xdc00

def IsTrailing (n : Nat) : Prop :=
  0xdc00 ≤ n ∧ n < 0xe000

instance : Decidable (IsLeading n) :=
  inferInstanceAs (Decidable (_ ∧ _))

instance : Decidable (IsTrailing n) :=
  inferInstanceAs (Decidable (_ ∧ _))

-- The bytes that the pieces stand for, if every leading number is followed by a trailing one and
-- every trailing one follows a leading one.
def bytes? : List Piece → Option Bytes
  | []                    => some []
  | byte b :: r           => (bytes? r).map (b :: ·)
  | unit n :: unit m :: r =>
    if IsLeading n then
      if IsTrailing m then
        (bytes? r).map (Utf8.encode [.ofNat (0x10000 + (n - 0xd800) * 0x400 + (m - 0xdc00))] ++ ·)
      else
        none
    else if IsTrailing n then
      none
    else
      (bytes? (unit m :: r)).map (Utf8.encode [.ofNat n] ++ ·)
  | unit n :: r           =>
    if IsLeading n ∨ IsTrailing n then none else (bytes? r).map (Utf8.encode [.ofNat n] ++ ·)

-- The text that the pieces stand for.
def content? (ps : List Piece) : Option String := do
  let bs ← bytes? ps
  let cs ← Utf8.decode? bs
  return .ofList cs

end Piece

-- What a backslash and this letter stand for.
def shortEscape? : Char → Option UInt8
  | '"'  => some 0x22
  | '\\' => some 0x5c
  | '/'  => some 0x2f
  | 'b'  => some 0x08
  | 'f'  => some 0x0c
  | 'n'  => some 0x0a
  | 'r'  => some 0x0d
  | 't'  => some 0x09
  | _    => none

def hexDigit? (c : Char) : Option Nat :=
  if c.isDigit then some (c.toNat - '0'.toNat)
  else if 'a' ≤ c ∧ c ≤ 'f' then some (c.toNat - 'a'.toNat + 10)
  else if 'A' ≤ c ∧ c ≤ 'F' then some (c.toNat - 'A'.toNat + 10)
  else none

end TokenLifecycle.Json
