namespace TokenLifecycle

abbrev Bytes := List UInt8

-- The `width` lowest bytes of a number, the most significant one first.
def bigEndian : Nat → Nat → Bytes
  | 0,         _ => []
  | width + 1, n => bigEndian width (n / 256) ++ [UInt8.ofNat n]

@[simp]
theorem length_bigEndian (width n : Nat) : (bigEndian width n).length = width := by
  induction width generalizing n <;> simp_all [bigEndian]

def ofBigEndian (bs : Bytes) : Nat :=
  bs.foldl (fun n b => n * 256 + b.toNat) 0

namespace Sha2

-- The machine words that the two halves of the family compute with.
class Word (W : Type) extends Add W, XorOp W, AndOp W, Complement W where
  bytes       : Nat
  ofNat       : Nat → W
  toNat       : W → Nat
  rotateRight : W → W → W
  shiftRight  : W → W → W

instance : Word UInt32 where
  bytes           := 4
  ofNat           := UInt32.ofNat
  toNat           := UInt32.toNat
  rotateRight x n := x >>> n ||| x <<< (32 - n)
  shiftRight x n  := x >>> n

instance : Word UInt64 where
  bytes           := 8
  ofNat           := UInt64.ofNat
  toNat           := UInt64.toNat
  rotateRight x n := x >>> n ||| x <<< (64 - n)
  shiftRight x n  := x >>> n

open Word

-- The eight words that are carried from block to block.
structure State (W : Type) where
  a : W
  b : W
  c : W
  d : W
  e : W
  f : W
  g : W
  h : W

namespace State

variable {W : Type} [Word W]

def words (s : State W) : List W :=
  [s.a, s.b, s.c, s.d, s.e, s.f, s.g, s.h]

omit [Word W] in
theorem length_words (s : State W) : s.words.length = 8 :=
  rfl

def add (s t : State W) : State W where
  a := s.a + t.a
  b := s.b + t.b
  c := s.c + t.c
  d := s.d + t.d
  e := s.e + t.e
  f := s.f + t.f
  g := s.g + t.g
  h := s.h + t.h

end State

-- One function of the family. The four mixing functions differ only in how far they rotate and
-- shift, and a digest is made of the first few words of the last state.
structure Variant (W : Type) where
  sum₀      : W × W × W
  sum₁      : W × W × W
  schedule₀ : W × W × W
  schedule₁ : W × W × W
  constants : List W
  initial   : State W
  digest    : Nat

namespace Variant

variable {W : Type} [Word W]

def mix (r : W × W × W) (x : W) : W :=
  rotateRight x r.1 ^^^ rotateRight x r.2.1 ^^^ rotateRight x r.2.2

def stir (r : W × W × W) (x : W) : W :=
  rotateRight x r.1 ^^^ rotateRight x r.2.1 ^^^ shiftRight x r.2.2

-- The schedule is a window of sixteen words that moves on by one word each round.
def advance (v : Variant W) (w : Vector W 16) : Vector W 16 :=
  (w.push <| stir v.schedule₁ w[14] + w[9] + stir v.schedule₀ w[1] + w[0]).tail

def round (v : Variant W) (s : State W) (k w : W) : State W :=
  let choice   := (s.e &&& s.f) ^^^ (~~~s.e &&& s.g)
  let majority := (s.a &&& s.b) ^^^ (s.a &&& s.c) ^^^ (s.b &&& s.c)
  let t        := s.h + mix v.sum₁ s.e + choice + k + w
  { a := t + (mix v.sum₀ s.a + majority), b := s.a, c := s.b, d := s.c,
    e := s.d + t,                         f := s.e, g := s.f, h := s.g }

def compress (v : Variant W) (s : State W) (block : Vector W 16) : State W :=
  s.add (v.constants.foldl (fun (s, w) k => (v.round s k w[0], v.advance w)) (s, block)).1

def blockBytes (_ : Variant W) : Nat :=
  16 * bytes W

-- A one bit, zeros up to the end of a block, and there the length of the message in bits as a
-- number of two words.
def padding (v : Variant W) (length : Nat) : Bytes :=
  let tail := bigEndian (2 * bytes W) (8 * length)
  let used := (length + 1 + tail.length) % v.blockBytes
  0x80 :: List.replicate ((v.blockBytes - used) % v.blockBytes) 0 ++ tail

def block (bs : Bytes) : Vector W 16 :=
  .ofFn fun i => ofNat <| ofBigEndian <| (bs.drop (i * bytes W)).take (bytes W)

def blocks (v : Variant W) : Nat → Bytes → List (Vector W 16)
  | 0,     _  => []
  | n + 1, bs => block bs :: v.blocks n (bs.drop v.blockBytes)

def hash (v : Variant W) (message : Bytes) : Bytes :=
  let padded := message ++ v.padding message.length
  let last   := (v.blocks (padded.length / v.blockBytes) padded).foldl v.compress v.initial
  (last.words.take v.digest).flatMap fun w => bigEndian (bytes W) (toNat w)

theorem length_flatMap_bigEndian (ws : List W) (n : Nat) :
    (ws.flatMap fun w => bigEndian n (toNat w)).length = ws.length * n := by
  induction ws <;> simp_all [Nat.succ_mul, Nat.add_comm]

-- The length of a digest does not depend on what is digested.
theorem length_hash (v : Variant W) (h : v.digest ≤ 8) (message : Bytes) :
    (v.hash message).length = v.digest * bytes W := by
  simp only [hash, length_flatMap_bigEndian, List.length_take, State.length_words]
  rw [Nat.min_eq_left h]

end Variant

-- The first 64 bits of the fractional parts of the cube roots of the first eighty primes. The
-- shorter functions use the upper halves of the first 64 of them.
def cubeRoots : List UInt64 := [
  0x428a2f98d728ae22, 0x7137449123ef65cd, 0xb5c0fbcfec4d3b2f, 0xe9b5dba58189dbbc,
  0x3956c25bf348b538, 0x59f111f1b605d019, 0x923f82a4af194f9b, 0xab1c5ed5da6d8118,
  0xd807aa98a3030242, 0x12835b0145706fbe, 0x243185be4ee4b28c, 0x550c7dc3d5ffb4e2,
  0x72be5d74f27b896f, 0x80deb1fe3b1696b1, 0x9bdc06a725c71235, 0xc19bf174cf692694,
  0xe49b69c19ef14ad2, 0xefbe4786384f25e3, 0x0fc19dc68b8cd5b5, 0x240ca1cc77ac9c65,
  0x2de92c6f592b0275, 0x4a7484aa6ea6e483, 0x5cb0a9dcbd41fbd4, 0x76f988da831153b5,
  0x983e5152ee66dfab, 0xa831c66d2db43210, 0xb00327c898fb213f, 0xbf597fc7beef0ee4,
  0xc6e00bf33da88fc2, 0xd5a79147930aa725, 0x06ca6351e003826f, 0x142929670a0e6e70,
  0x27b70a8546d22ffc, 0x2e1b21385c26c926, 0x4d2c6dfc5ac42aed, 0x53380d139d95b3df,
  0x650a73548baf63de, 0x766a0abb3c77b2a8, 0x81c2c92e47edaee6, 0x92722c851482353b,
  0xa2bfe8a14cf10364, 0xa81a664bbc423001, 0xc24b8b70d0f89791, 0xc76c51a30654be30,
  0xd192e819d6ef5218, 0xd69906245565a910, 0xf40e35855771202a, 0x106aa07032bbd1b8,
  0x19a4c116b8d2d0c8, 0x1e376c085141ab53, 0x2748774cdf8eeb99, 0x34b0bcb5e19b48a8,
  0x391c0cb3c5c95a63, 0x4ed8aa4ae3418acb, 0x5b9cca4f7763e373, 0x682e6ff3d6b2b8a3,
  0x748f82ee5defb2fc, 0x78a5636f43172f60, 0x84c87814a1f0ab72, 0x8cc702081a6439ec,
  0x90befffa23631e28, 0xa4506cebde82bde9, 0xbef9a3f7b2c67915, 0xc67178f2e372532b,
  0xca273eceea26619c, 0xd186b8c721c0c207, 0xeada7dd6cde0eb1e, 0xf57d4f7fee6ed178,
  0x06f067aa72176fba, 0x0a637dc5a2c898a6, 0x113f9804bef90dae, 0x1b710b35131c471b,
  0x28db77f523047d84, 0x32caab7b40c72493, 0x3c9ebe0a15c9bebc, 0x431d67c49c100d4c,
  0x4cc5d4becb3e42b6, 0x597f299cfc657e2a, 0x5fcb6fab3ad6faec, 0x6c44198c4a475817]

-- 256 bits, with an initial state made of the square roots of the first eight primes.
def sha256 : Variant UInt32 where
  sum₀      := (2, 13, 22)
  sum₁      := (6, 11, 25)
  schedule₀ := (7, 18, 3)
  schedule₁ := (17, 19, 10)
  constants := (cubeRoots.take 64).map fun (k : UInt64) => (k >>> 32).toUInt32
  initial   := { a := 0x6a09e667, b := 0xbb67ae85, c := 0x3c6ef372, d := 0xa54ff53a,
                 e := 0x510e527f, f := 0x9b05688c, g := 0x1f83d9ab, h := 0x5be0cd19 }
  digest    := 8

-- 512 bits, from the same eight roots.
def sha512 : Variant UInt64 where
  sum₀      := (28, 34, 39)
  sum₁      := (14, 18, 41)
  schedule₀ := (1, 8, 7)
  schedule₁ := (19, 61, 6)
  constants := cubeRoots
  initial   := { a := 0x6a09e667f3bcc908, b := 0xbb67ae8584caa73b,
                 c := 0x3c6ef372fe94f82b, d := 0xa54ff53a5f1d36f1,
                 e := 0x510e527fade682d1, f := 0x9b05688c2b3e6c1f,
                 g := 0x1f83d9abfb41bd6b, h := 0x5be0cd19137e2179 }
  digest    := 8

-- The longer function cut to 384 bits, from the square roots of the next eight primes.
def sha384 : Variant UInt64 :=
  { sha512 with
    initial := { a := 0xcbbb9d5dc1059ed8, b := 0x629a292a367cd507,
                 c := 0x9159015a3070dd17, d := 0x152fecd8f70e5939,
                 e := 0x67332667ffc00b31, f := 0x8eb44a8768581511,
                 g := 0xdb0c2e0d64f98fa7, h := 0x47b5481dbefa4fa4 }
    digest  := 6 }

end Sha2
end TokenLifecycle
