import TokenLifecycle.Digest.Sha2

namespace TokenLifecycle.Base64Url

-- Six bits, which one character stands for.
abbrev Sextet := Fin 64

namespace Sextet

def alphabet : List Char :=
  "ABCDEFGHIJKLMNOPQRSTUVWXYZabcdefghijklmnopqrstuvwxyz0123456789-_".toList

theorem length_alphabet : alphabet.length = 64 := by
  decide

def toChar (x : Sextet) : Char :=
  alphabet.get <| x.cast length_alphabet.symm

def ofChar? (c : Char) : Option Sextet :=
  (alphabet.finIdxOf? c).map (·.cast length_alphabet)

theorem ofChar?_toChar : ∀ x : Sextet, ofChar? x.toChar = some x := by
  decide +kernel

theorem toChar_of_ofChar?_eq_some {c : Char} {x : Sextet} (h : ofChar? c = some x) :
    x.toChar = c := by
  simp only [ofChar?, Option.map_eq_some_iff] at h
  obtain ⟨i, hi, rfl⟩ := h
  have ⟨h, _⟩ := List.finIdxOf?_eq_some_iff.mp hi
  simpa [toChar] using h

end Sextet

-- Three bytes make four sextets. One or two bytes left at the end make two or three, whose last
-- bits stay zero.
def split : Bytes → List Sextet
  | []              => []
  | [a]             => [.ofNat 64 (a.toNat / 4), .ofNat 64 (a.toNat % 4 * 16)]
  | [a, b]          => [.ofNat 64 (a.toNat / 4), .ofNat 64 (a.toNat % 4 * 16 + b.toNat / 16),
                        .ofNat 64 (b.toNat % 16 * 4)]
  | a :: b :: c :: r => .ofNat 64 (a.toNat / 4) :: .ofNat 64 (a.toNat % 4 * 16 + b.toNat / 16) ::
                        .ofNat 64 (b.toNat % 16 * 4 + c.toNat / 64) :: .ofNat 64 (c.toNat % 64) ::
                        split r

-- There is nothing that four sextets and one more could stand for, and bits that no byte takes
-- have to be zero.
def join? : List Sextet → Option Bytes
  | []               => some []
  | [_]              => none
  | [x, y]           => if y.val % 16 = 0 then some [.ofNat (x.val * 4 + y.val / 16)] else none
  | [x, y, z]        =>
    if z.val % 4 = 0 then
      some [.ofNat (x.val * 4 + y.val / 16), .ofNat (y.val % 16 * 16 + z.val / 4)]
    else
      none
  | x :: y :: z :: w :: r =>
    (join? r).map fun bs =>
      .ofNat (x.val * 4 + y.val / 16) :: .ofNat (y.val % 16 * 16 + z.val / 4) ::
      .ofNat (z.val % 4 * 64 + w.val) :: bs

def encode (bs : Bytes) : List Char :=
  (split bs).map Sextet.toChar

-- The length of the encoded form of `n` bytes.
def encodedLength (n : Nat) : Nat :=
  n / 3 * 4 + if n % 3 = 0 then 0 else n % 3 + 1

-- How many padding characters may follow an encoded form: at most those that fill it up to a
-- multiple of four characters.
def maxPadding (length : Nat) : Nat :=
  (4 - length % 4) % 4

-- Padding may be left out, in part or altogether.
def decode? (cs : List Char) : Option Bytes :=
  let body    := cs.takeWhile (· ≠ '=')
  let padding := cs.dropWhile (· ≠ '=')
  if padding.all (· = '=') ∧ padding.length ≤ maxPadding body.length then
    body.mapM Sextet.ofChar? |>.bind join?
  else
    none

end TokenLifecycle.Base64Url
