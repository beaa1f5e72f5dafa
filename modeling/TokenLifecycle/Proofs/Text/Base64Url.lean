import Mathlib.Data.List.DropRight
import TokenLifecycle.Text.Base64Url.Lemmas

namespace TokenLifecycle.Base64Url

variable {bs : Bytes} {cs : List Char} {c : Char} {length n : Nat}

-- The characters that encoded forms are made of.
def UrlSafe (c : Char) : Prop :=
  c.isUpper ∨ c.isLower ∨ c.isDigit ∨ c = '-' ∨ c = '_'

instance (c : Char) : Decidable (UrlSafe c) :=
  inferInstanceAs (Decidable (_ ∨ _))

theorem urlSafe_toChar : ∀ x : Sextet, UrlSafe x.toChar := by
  decide +kernel

theorem urlSafe_of_mem_encode (h : c ∈ encode bs) : UrlSafe c := by
  obtain ⟨x, _, rfl⟩ := List.mem_map.mp h
  exact urlSafe_toChar x

theorem encode_injective : Function.Injective encode := by
  intro bs bs' h
  have hd := congrArg decode? h
  rw [decode?_encode, decode?_encode] at hd
  exact Option.some.inj hd

-- How much padding a text of some length may have. A single character at the end stands for
-- nothing, with or without padding.
inductive Fits (length : Nat) : (padding : Nat) → Prop
  | whole : length % 4 = 0 → Fits length 0
  | two {n : Nat} : length % 4 = 2 → n ≤ 2 → Fits length n
  | three {n : Nat} : length % 4 = 3 → n ≤ 1 → Fits length n

theorem encodedLength_mod_ne_one (n : Nat) : encodedLength n % 4 ≠ 1 := by
  rw [encodedLength]
  split <;> omega

theorem fits_iff (h : length % 4 ≠ 1) : Fits length n ↔ n ≤ maxPadding length := by
  constructor
  case mp =>
    intro hf
    cases hf
    case whole       => exact Nat.zero_le _
    case two hl hn   => simpa only [maxPadding, hl] using hn
    case three hl hn => simpa only [maxPadding, hl] using hn
  case mpr =>
    intro hn
    obtain hl | hl | hl : length % 4 = 0 ∨ length % 4 = 2 ∨ length % 4 = 3 := by omega
    all_goals simp only [maxPadding, hl] at hn
    case inl     => exact Nat.le_zero.mp hn ▸ .whole hl
    case inr.inl => exact .two hl hn
    case inr.inr => exact .three hl hn

theorem decode?_eq_some_iff_fits :
    decode? cs = some bs ↔
      ∃ n, Fits (encode bs).length n ∧ cs = encode bs ++ List.replicate n '=' := by
  rw [decode?_eq_some_iff]
  simp only [length_encode, fits_iff (encodedLength_mod_ne_one _)]

-- The text without its padding.
def unpadded (cs : List Char) : List Char :=
  cs.rdropWhile (· = '=')

theorem unpadded_append_replicate (h : '=' ∉ cs) (n : Nat) :
    unpadded (cs ++ List.replicate n '=') = cs := by
  induction n
  case zero =>
    rw [List.replicate_zero, List.append_nil]
    refine List.rdropWhile_eq_self_iff.mpr fun hn he => h ?_
    exact of_decide_eq_true he ▸ List.getLast_mem hn
  case succ n hi =>
    rw [List.replicate_succ', ← List.append_assoc, unpadded]
    exact (List.rdropWhile_concat_pos _ _ _ <| by simp).trans hi

theorem unpadded_eq_encode (h : decode? cs = some bs) : unpadded cs = encode bs := by
  obtain ⟨n, _, rfl⟩ := decode?_eq_some_iff.mp h
  exact unpadded_append_replicate (fun hm => (ne_of_mem_encode hm).1 rfl) n

-- Texts that are read differ in what they say if they differ in more than their padding.
theorem exists_decode?_eq_some_iff {cs' : List Char} :
    (∃ bs, decode? cs = some bs ∧ decode? cs' = some bs) ↔
      (decode? cs).isSome ∧ (decode? cs').isSome ∧ unpadded cs = unpadded cs' := by
  simp only [Option.isSome_iff_exists]
  constructor
  case mp =>
    intro ⟨bs, h, h'⟩
    exact ⟨⟨bs, h⟩, ⟨bs, h'⟩, (unpadded_eq_encode h).trans (unpadded_eq_encode h').symm⟩
  case mpr =>
    intro ⟨⟨bs, h⟩, ⟨bs', h'⟩, he⟩
    rw [unpadded_eq_encode h, unpadded_eq_encode h'] at he
    exact ⟨bs, h, encode_injective he ▸ h'⟩

-- Reading undoes writing, and beyond what is written it takes nothing but padding, which at most
-- fills up the last group of characters. So what is read tells the text, but for its padding.
theorem decode?_inverts_encode (bs : Bytes) (cs cs' : List Char) :
    (decode? (encode bs) = some bs ∧ ∀ c ∈ encode bs, UrlSafe c ∧ c ≠ '.' ∧ c ≠ '=') ∧
    (decode? cs = some bs ↔
      ∃ n, Fits (encode bs).length n ∧ cs = encode bs ++ List.replicate n '=') ∧
    ((∃ bs, decode? cs = some bs ∧ decode? cs' = some bs) ↔
      (decode? cs).isSome ∧ (decode? cs').isSome ∧ unpadded cs = unpadded cs') := by
  refine ⟨⟨decode?_encode bs, fun c hc => ?_⟩, decode?_eq_some_iff_fits, exists_decode?_eq_some_iff⟩
  exact ⟨urlSafe_of_mem_encode hc, (ne_of_mem_encode hc).symm⟩

-- The padding may be there in part, but there cannot be too much of it, and the four bits that the
-- byte leaves of its second character are not free.
theorem decode?_inverts_encode_of_partial_padding :
    let bs : Bytes := [0x66]
    encode bs = "Zg".toList ∧ 'Z' ∈ encode bs ∧ UrlSafe 'Z' ∧
    (∃ bs, decode? "Zg=".toList = some bs ∧ decode? "Zg==".toList = some bs) ∧
    unpadded "Zg=".toList = unpadded "Zg==".toList ∧
    decode? "Zg===".toList ≠ some bs ∧ decode? "Zh".toList ≠ some bs := by
  intro bs
  have he : encode bs = "Zg".toList := rfl
  have hm : 'Z' ∈ encode bs := by decide
  have ⟨⟨_, hs⟩, hp, hu⟩ := decode?_inverts_encode bs "Zg=".toList "Zg==".toList
  have ⟨_, hp', _⟩ := decode?_inverts_encode bs "Zg==".toList []
  have hp := hp.mpr ⟨1, .two rfl (by decide), rfl⟩
  have hp' := hp'.mpr ⟨2, .two rfl (by decide), rfl⟩
  have hb := hu.mp ⟨bs, hp, hp'⟩
  refine ⟨he, hm, (hs _ hm).1, ⟨bs, hp, hp'⟩, hb.2.2, ?_, ?_⟩
  · intro hd
    have ⟨n, hf, hc⟩ := (decode?_inverts_encode bs _ []).2.1.mp hd
    have hn : n = 3 := by simpa [he] using (congrArg List.length hc).symm
    cases hf
    all_goals omega
  · intro hd
    have ⟨n, _, hc⟩ := (decode?_inverts_encode bs _ []).2.1.mp hd
    simp [he] at hc

end TokenLifecycle.Base64Url
