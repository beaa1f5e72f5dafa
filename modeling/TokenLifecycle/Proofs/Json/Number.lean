import TokenLifecycle.Proofs.Json.Grammar

namespace TokenLifecycle.Json

open Grammar (Digits Fraction Exponent)

namespace NumberScan

variable {q q₀ q' : NumberScan} {c : Char} {w ds : List Char}

-- Where reading stands behind the whole part of a number.
def whole (negative : Bool) (n : Nat) : NumberScan :=
  if n = 0 then zero negative else digits negative n

theorem isDigit_digitChar : ∀ d < 10, d.digitChar.isDigit ∧ digit d.digitChar = d ∧
    (d.digitChar = '0' ↔ d = 0) := by
  decide

theorem lt_of_isDigit (h : c.isDigit) : c.toNat < 0x80 :=
  Nat.lt_of_le_of_lt (Char.isDigit_iff_toNat.mp h).2 (by decide)

-- No number holds a character beyond ASCII.
theorem lt_of_step_eq_some (h : q.step c = some q') : c.toNat < 0x80 := by
  by_contra hn
  have hc {d : Char} (hd : d.toNat < 0x80) : c ≠ d := fun he => hn (he ▸ hd)
  have hd : ¬c.isDigit := mt lt_of_isDigit hn
  have hw : afterWhole c = none := by
    unfold afterWhole
    split <;> first | rfl | exact absurd (by decide) hn
  have hz : c ≠ '0' := hc (by decide)
  have he : ¬(c = 'e' ∨ c = 'E') := not_or.mpr ⟨hc (by decide), hc (by decide)⟩
  have hs : ¬(c = '+' ∨ c = '-') := not_or.mpr ⟨hc (by decide), hc (by decide)⟩
  cases q <;> simp only [step, if_neg hd, if_neg hz, if_neg he, if_neg hs, hw, reduceCtorEq] at h

theorem foldlM_digits (h₀ : ∀ c, c.isDigit → q₀.step c = some q)
    (h : ∀ c, c.isDigit → q.step c = some q) (hd : Digits ds) :
    ds.foldlM step q₀ = some q := by
  obtain ⟨hn, hd⟩ := hd
  have loop (ds : List Char) (hd : ∀ d ∈ ds, d.isDigit) : ds.foldlM step q = some q := by
    induction ds
    case nil          => rfl
    case cons d ds hi =>
      rw [List.foldlM_cons, h d (hd d <| .head _)]
      exact hi fun d hm => hd d <| .tail _ hm
  match ds with
  | d :: ds =>
    rw [List.foldlM_cons, h₀ d (hd d <| .head _)]
    exact loop ds fun d hm => hd d <| .tail _ hm

theorem step_whole_point (negative : Bool) (n : Nat) :
    (whole negative n).step '.' = some point := by
  unfold whole
  split <;> rfl

theorem step_whole_exponent (negative : Bool) (n : Nat) :
    ∀ e ∈ ['e', 'E'], (whole negative n).step e = some exponent := by
  unfold whole
  split <;> simp [step, afterWhole]

theorem step_fraction_exponent : ∀ e ∈ ['e', 'E'], fraction.step e = some exponent := by
  simp [step]

theorem foldlM_fraction (negative : Bool) (n : Nat) (hd : Digits ds) :
    ('.' :: ds).foldlM step (whole negative n) = some fraction := by
  rw [List.foldlM_cons, step_whole_point negative n]
  exact foldlM_digits (fun _ hd => if_pos hd) (fun _ hd => if_pos hd) hd

theorem foldlM_exponent (hq : ∀ e ∈ ['e', 'E'], q.step e = some exponent) {e : Char}
    {sign : List Char} (he : e ∈ ['e', 'E']) (hs : sign ∈ [[], ['+'], ['-']]) (hd : Digits ds) :
    (e :: sign ++ ds).foldlM step q = some power := by
  have hp : ∀ c, c.isDigit → power.step c = some power := fun _ hd => if_pos hd
  have he' : ∀ c, c.isDigit → exponent.step c = some power := by
    intro c hc
    have hn : ¬(c = '+' ∨ c = '-') := by rintro (rfl | rfl) <;> exact absurd hc (by decide)
    rw [step, if_neg hn, if_pos hc]
  have hs' : ds.foldlM step NumberScan.sign = some power :=
    foldlM_digits (fun _ hd => if_pos hd) hp hd
  rw [List.cons_append, List.foldlM_cons, hq e he]
  simp only [List.mem_cons, List.not_mem_nil, or_false] at hs
  obtain rfl | rfl | rfl := hs
  case inl     => exact foldlM_digits he' hp hd
  case inr.inl => exact hs'
  case inr.inr => exact hs'

theorem number?_whole (negative : Bool) (n : Nat) :
    (whole negative n).number? = some (.number <| if negative then none else some n) := by
  unfold whole
  split
  case isTrue hn => cases negative <;> simp [number?, hn]
  case isFalse   => cases negative <;> rfl

-- A number is over wherever its whole part, its fraction or its exponent is, and with a fraction or
-- an exponent it has no value.
theorem exists_foldlM_whole (negative : Bool) (n : Nat) {f e : List Char} (hf : Fraction f)
    (he : Exponent e) :
    ∃ q, (f ++ e).foldlM step (whole negative n) = some q ∧
      q.number? = some (.number <| if negative ∨ f ≠ [] ∨ e ≠ [] then none else some n) := by
  cases hf
  case absent =>
    cases he
    case absent => exact ⟨whole negative n, rfl, by simp [number?_whole]⟩
    case digits he hs hd =>
      exact ⟨power, foldlM_exponent (step_whole_exponent negative n) he hs hd, by simp [number?]⟩
  case digits ds hf =>
    have hf := foldlM_fraction negative n hf
    cases he
    case absent => exact ⟨fraction, by rw [List.append_nil, hf], by simp [number?]⟩
    case digits he hs hd =>
      refine ⟨power, ?_, by simp [number?]⟩
      rw [List.foldlM_append, hf]
      exact foldlM_exponent step_fraction_exponent he hs hd

end NumberScan

namespace Scan

open NumberScan (whole)

variable {s : Scan} {fs : List Frame} {negative : Bool} {n : Nat}

theorem run_number {w : List Char} {q q' : NumberScan} (h : w.foldlM NumberScan.step q = some q')
    (fs) : (Scan.mk (.number q) fs).run (Utf8.encode w) = some ⟨.number q', fs⟩ := by
  induction w generalizing q
  case nil          => cases h; rfl
  case cons c w hi  =>
    obtain ⟨q₁, hc, h⟩ := Option.bind_eq_some_iff.mp <| List.foldlM_cons.symm.trans h
    have ha := NumberScan.lt_of_step_eq_some hc
    have hs : (Scan.mk (.number q) fs).step c.toUInt8 = some ⟨.number q₁, fs⟩ := by
      simp only [step, Utf8.ofUInt8_toUInt8 ha, hc]
    rw [Utf8.encode_cons_of_lt _ ha, run_cons, hs]
    exact hi h

-- The whole part of a number may come next, with or without a sign before it.
def ExpectsWhole (s : Scan) (negative : Bool) (fs : List Frame) : Prop :=
  ∀ d < 10, s.step d.digitChar.toUInt8 = some ⟨.number (whole negative d), fs⟩

theorem not_blank_of_isDigit {c : Char} (h : c.isDigit) : ¬Blank c := by
  rintro (rfl | rfl | rfl | rfl) <;> exact absurd h (by decide)

theorem step_value_of_isDigit {c : Char} (h : c.isDigit) (fs) :
    (Scan.mk .value fs).step c.toUInt8 = (NumberScan.start c).map (⟨.number ·, fs⟩) := by
  have ha := NumberScan.lt_of_isDigit h
  simp only [step, Utf8.ofUInt8_toUInt8 ha, if_neg (not_blank_of_isDigit h)]
  unfold begin
  split <;> first | rfl | exact absurd h (by decide)

theorem expectsWhole_value (fs) : (Scan.mk .value fs).ExpectsWhole false fs := by
  intro d hd
  have ⟨hc, hv, hz⟩ := NumberScan.isDigit_digitChar d hd
  have hm : d.digitChar ≠ '-' := fun h => absurd (h ▸ hc) (by decide)
  rw [step_value_of_isDigit hc, NumberScan.start, if_neg hm, hv, if_pos hc, whole]
  by_cases h : d = 0 <;> simp [hz, h]

theorem expectsWhole_minus (fs) : (Scan.mk (.number .minus) fs).ExpectsWhole true fs := by
  intro d hd
  have ⟨hc, hv, hz⟩ := NumberScan.isDigit_digitChar d hd
  simp only [step, Utf8.ofUInt8_toUInt8 (NumberScan.lt_of_isDigit hc), NumberScan.step, hz, hv,
    if_pos hc, whole]
  by_cases h : d = 0 <;> simp [h]

-- The digits are read from the first one on, so the induction is on what is left without the last.
theorem run_natural (hs : s.ExpectsWhole negative fs) (n : Nat) :
    s.run (Utf8.encode <| Nat.toDigits 10 n) = some ⟨.number (whole negative n), fs⟩ := by
  induction n using Nat.strongRecOn
  case ind n hi =>
    by_cases hn : n < 10
    case pos =>
      have ⟨hd, _⟩ := NumberScan.isDigit_digitChar n hn
      rw [Nat.toDigits_of_lt_base hn, Utf8.encode_cons_of_lt _ (NumberScan.lt_of_isDigit hd),
        run_cons, hs n hn]
      rfl
    case neg =>
      have ⟨hd, hv, _⟩ := NumberScan.isDigit_digitChar (n % 10) (Nat.mod_lt _ <| by decide)
      have hw : whole negative (n / 10) = .digits negative (n / 10) := if_neg (by omega)
      have hs : (whole negative (n / 10)).step (n % 10).digitChar = some (whole negative n) := by
        have hn' : n / 10 * 10 + n % 10 = n := by omega
        rw [hw, NumberScan.step, if_pos hd, hv, hn', whole, if_neg (by omega)]
      rw [Nat.toDigits_of_base_le (by decide) (Nat.le_of_not_lt hn), Utf8.encode_append, run_append,
        hi (n / 10) (by omega), Option.bind_some]
      exact run_number (by rw [List.foldlM_cons, hs]; rfl) fs

end Scan

variable {w : List Char} {n : Option Nat}

-- A number is not over before something else follows it.
theorem exists_run_number (h : Grammar.Number w n) (fs) :
    ∃ q, (Scan.mk .value fs).run (Utf8.encode w) = some ⟨.number q, fs⟩ ∧
      q.number? = some (.number n) := by
  cases h
  case natural n =>
    exact ⟨_, Scan.run_natural (Scan.expectsWhole_value fs) n, NumberScan.number?_whole false n⟩
  case other sign f e n hs hf he ho =>
    simp only [List.mem_cons, List.not_mem_nil, or_false] at hs
    obtain rfl | rfl := hs
    case inl =>
      have ⟨q, hr, hq⟩ := NumberScan.exists_foldlM_whole false n hf he
      rw [if_pos <| .inr <| ho.resolve_left (absurd rfl)] at hq
      refine ⟨q, ?_, hq⟩
      rw [List.nil_append, List.append_assoc, Utf8.encode_append, Scan.run_append,
        Scan.run_natural (Scan.expectsWhole_value fs)]
      exact Scan.run_number hr fs
    case inr =>
      have ⟨q, hr, hq⟩ := NumberScan.exists_foldlM_whole true n hf he
      have hm : (Scan.mk .value fs).run (Utf8.encode ['-']) = some ⟨.number .minus, fs⟩ := rfl
      rw [if_pos <| .inl rfl] at hq
      refine ⟨q, ?_, hq⟩
      rw [List.append_assoc, List.append_assoc, Utf8.encode_append, Scan.run_append, hm,
        Option.bind_some, Utf8.encode_append, Scan.run_append,
        Scan.run_natural (Scan.expectsWhole_minus fs)]
      exact Scan.run_number hr fs

end TokenLifecycle.Json
