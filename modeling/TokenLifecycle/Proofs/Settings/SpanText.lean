import Mathlib.Data.List.Basic
import Mathlib.Data.List.Induction
import Mathlib.Data.List.TakeWhile
import TokenLifecycle.Settings.Lookup

namespace TokenLifecycle

section Blanks

variable {cs before core after : List Char}

theorem dropWhile_blank_append (hb : ∀ c ∈ before, Blank c) (hc : ∀ c ∈ core.head?, ¬Blank c) :
    (before ++ core).dropWhile (Blank ·) = core := by
  rw [List.dropWhile_append_of_pos (by simpa using hb)]
  cases core
  case nil  => rfl
  case cons => exact List.dropWhile_cons_of_neg (by simpa using hc)

-- What is left of a text without the blanks around it.

theorem trim_append (hb : ∀ c ∈ before, Blank c) (hn : core ≠ []) (hc : ∀ c ∈ core, ¬Blank c)
    (ha : ∀ c ∈ after, Blank c) : trim (before ++ core ++ after) = core := by
  have hh : ∀ c ∈ (core ++ after).head?, ¬Blank c := by
    intro c hm
    rw [List.head?_append_of_ne_nil _ hn] at hm
    exact hc c <| List.mem_of_mem_head? hm
  have hl : ∀ c ∈ core.reverse.head?, ¬Blank c := fun c hm =>
    hc c <| List.mem_reverse.mp <| List.mem_of_mem_head? hm
  have ha : ∀ c ∈ after.reverse, Blank c := fun c hm => ha c <| List.mem_reverse.mp hm
  rw [trim, List.append_assoc, dropWhile_blank_append hb hh, List.reverse_append,
    dropWhile_blank_append ha hl, List.reverse_reverse]

theorem exists_eq_append_trim (cs : List Char) :
    ∃ before after, (∀ c ∈ before, Blank c) ∧ (∀ c ∈ after, Blank c) ∧
      cs = before ++ trim cs ++ after := by
  let rest := cs.dropWhile (Blank ·)
  refine ⟨cs.takeWhile (Blank ·), (rest.reverse.takeWhile (Blank ·)).reverse, ?_, ?_, ?_⟩
  · exact fun c hm => by simpa using List.mem_takeWhile_imp hm
  · exact fun c hm => by simpa using List.mem_takeWhile_imp (List.mem_reverse.mp hm)
  · rw [List.append_assoc, trim, ← List.reverse_append, List.takeWhile_append_dropWhile,
      List.reverse_reverse, List.takeWhile_append_dropWhile]

end Blanks

namespace Span

variable {cs ds ds' u u' : List Char} {digit : Char → Bool} {n scale : Nat} {s : String}
variable {d : Span}

-- A number that is written in digits, the first of which may well be zero.
inductive Decimal : List Char → Nat → Prop
  | digit {d : Nat} : (d < 10) → Decimal [d.digitChar] d
  | snoc {ds : List Char} {n d : Nat} : Decimal ds n → (d < 10) →
    Decimal (ds ++ [d.digitChar]) (n * 10 + d)

-- What may stand behind the number, and for how many seconds.
def units : List (String × Nat) :=
  [("", 1), ("s", 1), ("min", 60), ("h", 3600), ("d", 86400)]

-- The text stands for so many seconds, however many these are.
inductive Names : List Char → Nat → Prop
  | intro {before digits unit after : List Char} {n scale : Nat} :
    (∀ c ∈ before, Blank c) → Decimal digits n → ((String.ofList unit, scale) ∈ units) →
    (∀ c ∈ after, Blank c) → Names (before ++ (digits ++ unit) ++ after) (n * scale)

theorem exists_digitChar {c : Char} (h : c.isDigit) :
    ∃ d < 10, c = d.digitChar ∧ c.toNat - '0'.toNat = d := by
  have ⟨hl, hu⟩ := Char.isDigit_iff_toNat.mp h
  have hl : 48 ≤ c.toNat := hl
  have hu : c.toNat ≤ 57 := hu
  refine ⟨c.toNat - 48, by omega, ?_, rfl⟩
  apply Char.toNat_inj.mp
  rw [Nat.toNat_digitChar_of_lt_ten (by omega)]
  omega

theorem decimal_iff :
    Decimal ds n ↔ ds ≠ [] ∧ (∀ c ∈ ds, c.isDigit) ∧ Nat.ofDigitChars 10 ds 0 = n := by
  constructor
  case mp  =>
    intro h
    induction h
    case digit d hd =>
      refine ⟨List.cons_ne_nil _ _, by simpa using hd, ?_⟩
      rw [Nat.ofDigitChars_cons_digitChar_of_lt_ten hd, Nat.ofDigitChars_nil, Nat.mul_zero,
        Nat.zero_add]
    case snoc ds n d _ hd hi =>
      obtain ⟨_, hc, hv⟩ := hi
      refine ⟨by simp, ?_, ?_⟩
      · simpa [or_imp, forall_and, hd] using hc
      · rw [Nat.ofDigitChars_append, hv, Nat.ofDigitChars_cons_digitChar_of_lt_ten hd,
          Nat.ofDigitChars_nil, Nat.mul_comm]
  case mpr =>
    intro ⟨hn, hc, hv⟩
    induction ds using List.reverseRecOn generalizing n
    case nil => exact absurd rfl hn
    case append_singleton ds c hi =>
      have ⟨d, hd, he, hs⟩ := exists_digitChar <| hc c <| List.mem_append_right _ <| .head _
      rw [Nat.ofDigitChars_append, Nat.ofDigitChars_cons, Nat.ofDigitChars_nil, hs] at hv
      subst he hv
      by_cases hds : ds = []
      case pos =>
        subst hds
        simpa using Decimal.digit hd
      case neg =>
        rw [Nat.mul_comm]
        exact .snoc (hi hds (fun c hm => hc c <| List.mem_append_left _ hm) rfl) hd

theorem unit?_eq_some_iff : unit? u = some scale ↔ (String.ofList u, scale) ∈ units := by
  constructor
  case mp  =>
    unfold unit?
    intro h
    split at h
    case h_6 => cases h
    all_goals
      cases h
      decide
  case mpr =>
    intro h
    simp only [units, List.mem_cons, List.not_mem_nil, or_false, Prod.mk.injEq,
      ← String.toList_inj, String.toList_ofList] at h
    obtain ⟨rfl, rfl⟩ | ⟨rfl, rfl⟩ | ⟨rfl, rfl⟩ | ⟨rfl, rfl⟩ | ⟨rfl, rfl⟩ := h
    all_goals rfl

-- No unit holds anything that could be taken for a digit or a blank.

theorem not_isDigit_of_mem_units :
    ∀ p ∈ units, ∀ c ∈ p.1.toList, c.toNat < 0x80 ∧ ¬c.isDigit := by
  have h : units.all fun p => p.1.toList.all fun c => c.toNat < 0x80 ∧ ¬c.isDigit := by decide
  simpa only [List.all_eq_true, decide_eq_true_eq] using h

theorem not_blank_of_mem_units : ∀ p ∈ units, ∀ c ∈ p.1.toList, ¬Blank c := by
  have h : units.all fun p => p.1.toList.all fun c => ¬Blank c := by decide
  simpa only [List.all_eq_true, decide_eq_true_eq] using h

theorem pos_of_mem_units : ∀ p ∈ units, 0 < p.2 := by
  decide

theorem not_blank_of_isDigit {c : Char} (h : c.isDigit) : ¬Blank c := by
  obtain ⟨d, hd, rfl, _⟩ := exists_digitChar h
  have hb : ∀ d < 10, ¬Blank d.digitChar := by decide
  exact hb d hd

-- A text names what the number and the unit in it say, with the blanks around them taken away.
theorem names_iff :
    Names cs n ↔ ∃ ds u m scale, trim cs = ds ++ u ∧ Decimal ds m ∧
      (String.ofList u, scale) ∈ units ∧ m * scale = n := by
  constructor
  case mp  =>
    rintro ⟨hb, hm, hu, ha⟩
    have ⟨hn, hd, _⟩ := decimal_iff.mp hm
    refine ⟨_, _, _, _, trim_append hb (List.append_ne_nil_of_left_ne_nil hn _) ?_ ha, hm, hu, rfl⟩
    intro c hc
    cases List.mem_append.mp hc
    case inl hc => exact not_blank_of_isDigit <| hd c hc
    case inr hc => exact not_blank_of_mem_units _ hu c <| by simpa using hc
  case mpr =>
    rintro ⟨ds, u, m, scale, ht, hm, hu, rfl⟩
    have ⟨before, after, hb, ha, hc⟩ := exists_eq_append_trim cs
    rw [hc, ht]
    exact .intro hb hm hu ha

-- Of the characters of ASCII, the ten that everybody takes for digits are the only ones.
def Usual (digit : Char → Bool) : Prop :=
  ∀ c, c.toNat < 0x80 → digit c = c.isDigit

theorem Usual.of_isDigit (hd : Usual digit) {c : Char} (h : c.isDigit) : digit c := by
  have ha : c.toNat < 0x80 := Nat.lt_of_le_of_lt (Char.isDigit_iff_toNat.mp h).2 (by decide)
  rw [hd c ha, h]

-- The text consists of digits of some kind and of a unit, and these are the two.
structure Parts (digit : Char → Bool) (cs ds u : List Char) : Prop where
  eq       : cs = ds ++ u
  nonempty : ds ≠ []
  digits   : ∀ c ∈ ds, digit c
  unit     : ∃ scale, (String.ofList u, scale) ∈ units

namespace Parts

-- No unit begins with a digit, so there is just one place at which a text comes apart.

theorem span_eq (hd : Usual digit) (h : Parts digit cs ds u) :
    cs.takeWhile digit = ds ∧ cs.dropWhile digit = u := by
  obtain ⟨rfl, _, hds, scale, hu⟩ := h
  rw [List.takeWhile_append_of_pos hds, List.dropWhile_append_of_pos hds]
  cases u
  case nil      => simp
  case cons c u =>
    have ⟨ha, hc⟩ := not_isDigit_of_mem_units _ hu c (by simp)
    have hc : ¬digit c := by rwa [hd c ha]
    rw [List.takeWhile_cons_of_neg hc, List.dropWhile_cons_of_neg hc, List.append_nil]
    exact ⟨rfl, rfl⟩

theorem unique (hd : Usual digit) (h : Parts digit cs ds u) (h' : Parts digit cs ds' u') :
    ds = ds' ∧ u = u' := by
  have ⟨ht, hr⟩ := h.span_eq hd
  have ⟨ht', hr'⟩ := h'.span_eq hd
  exact ⟨ht.symm.trans ht', hr.symm.trans hr'⟩

theorem of_decimal (hd : Usual digit) (ht : cs = ds ++ u) (hm : Decimal ds n)
    (hu : (String.ofList u, scale) ∈ units) : Parts digit cs ds u := by
  have ⟨hn, hc, _⟩ := decimal_iff.mp hm
  exact ⟨ht, hn, fun c hm => hd.of_isDigit <| hc c hm, scale, hu⟩

end Parts

theorem ofText?_eq_some_iff : ofText? s = some d ↔ Names s.toList d.seconds := by
  rw [names_iff]
  simp only [ofText?]
  constructor
  case mp  =>
    intro h
    split at h
    case isTrue     => cases h
    case isFalse hn =>
      have ⟨scale, hu, hv⟩ := Option.bind_eq_some_iff.mp h
      have hm : Decimal ((trim s.toList).takeWhile Char.isDigit) _ :=
        decimal_iff.mpr ⟨hn, fun _ hc => List.mem_takeWhile_imp hc, rfl⟩
      exact ⟨_, _, _, scale, List.takeWhile_append_dropWhile.symm, hm, unit?_eq_some_iff.mp hu,
        ofNat?_eq_some_iff.mp hv |>.symm⟩
  case mpr =>
    intro ⟨ds, u, m, scale, ht, hm, hu, hv⟩
    have ⟨hds, hr⟩ := (Parts.of_decimal (fun _ _ => rfl) ht hm hu).span_eq fun _ _ => rfl
    have ⟨hn, _, hm⟩ := decimal_iff.mp hm
    rw [hds, hr, if_neg hn, hm, unit?_eq_some_iff.mpr hu]
    exact ofNat?_eq_some_iff.mpr hv.symm

-- A number as it is read where it may have a sign as well, unless it is too large to be held.
def number? (cs : List Char) : Option Nat :=
  let ds := if cs.head? = some '+' then cs.tail else cs
  let n  := Nat.ofDigitChars 10 ds 0
  if ds ≠ [] ∧ ds.all Char.isDigit ∧ n ≤ maxSeconds then some n else none

theorem Parts.number?_eq_some_iff (hd : Usual digit) (h : Parts digit cs ds u) :
    number? ds = some n ↔ Decimal ds n ∧ n ≤ maxSeconds := by
  have hs : ds.head? ≠ some '+' := by
    intro hs
    have := (hd '+' (by decide)).symm.trans <| h.digits '+' <| List.mem_of_mem_head? hs
    cases this
  simp only [number?, if_neg hs, decimal_iff, List.all_eq_true, Option.ite_none_right_eq_some,
    Option.some.injEq]
  constructor
  case mp  => exact fun ⟨⟨hn, hc, hm⟩, hv⟩ => ⟨⟨hn, hc, hv⟩, hv ▸ hm⟩
  case mpr => exact fun ⟨⟨hn, hc, hv⟩, hm⟩ => ⟨⟨hn, hc, hv.symm ▸ hm⟩, hv⟩

-- A way to find the digits and the unit that a text consists of, which fails for no other texts
-- than those that do not consist of them. It may know more digits than those of ASCII.
structure Matcher where
  digit    : Char → Bool
  match?   : List Char → Option (List Char × List Char)
  usual    : Usual digit
  parts    : ∀ cs ds u, match? cs = some (ds, u) → Parts digit cs ds u
  complete : ∀ cs ds u, Parts digit cs ds u → (match? cs).isSome

namespace Matcher

variable {m : Matcher}

theorem match?_eq_some_iff : m.match? cs = some (ds, u) ↔ Parts m.digit cs ds u := by
  constructor
  case mp  => exact m.parts cs ds u
  case mpr =>
    intro h
    have ⟨(ds', u'), hm⟩ := Option.isSome_iff_exists.mp <| m.complete cs ds u h
    obtain ⟨rfl, rfl⟩ := h.unique m.usual <| m.parts _ _ _ hm
    exact hm

-- The digits as far as they go, and all that follows if that is a unit.
def longest (digit : Char → Bool) (h : Usual digit) : Matcher where
  digit    := digit
  match? cs :=
    let ds := cs.takeWhile digit
    let u  := cs.dropWhile digit
    if ds ≠ [] ∧ (unit? u).isSome then some (ds, u) else none
  usual    := h
  parts    := by
    intro cs ds u hm
    simp only [Option.ite_none_right_eq_some, Option.some.injEq, Prod.mk.injEq] at hm
    obtain ⟨⟨hn, hu⟩, rfl, rfl⟩ := hm
    have ⟨scale, hu⟩ := Option.isSome_iff_exists.mp hu
    exact {
      eq       := List.takeWhile_append_dropWhile.symm
      nonempty := hn
      digits   := fun _ hc => List.mem_takeWhile_imp hc
      unit     := ⟨scale, unit?_eq_some_iff.mp hu⟩ }
  complete := by
    intro cs ds u hp
    have ⟨hds, hr⟩ := hp.span_eq h
    have ⟨scale, hu⟩ := hp.unit
    simp [hds, hr, hp.nonempty, unit?_eq_some_iff.mpr hu]

-- A span as it is read in layers, none of which is made for spans alone.
def ofText? (m : Matcher) (s : String) : Option Span := do
  let (ds, u) ← m.match? (trim s.toList)
  let n ← number? ds
  let scale ← unit? u
  ofNat? (n * scale)

theorem ofText?_eq_some_iff : m.ofText? s = some d ↔ Names s.toList d.seconds := by
  simp only [names_iff, ofText?, Option.bind_eq_bind, Option.bind_eq_some_iff, Prod.exists,
    ofNat?_eq_some_iff, match?_eq_some_iff, unit?_eq_some_iff]
  constructor
  case mp  =>
    intro ⟨ds, u, hp, n, hn, scale, hu, hv⟩
    exact ⟨ds, u, n, scale, hp.eq, (hp.number?_eq_some_iff m.usual).mp hn |>.1, hu, hv.symm⟩
  case mpr =>
    intro ⟨ds, u, n, scale, ht, hm, hu, hv⟩
    have hp := Parts.of_decimal m.usual ht hm hu
    have hn : n ≤ maxSeconds :=
      calc n ≤ n * scale := Nat.le_mul_of_pos_right n <| pos_of_mem_units _ hu
        _ = d.seconds    := hv
        _ ≤ maxSeconds   := d.bound
    exact ⟨ds, u, hp, n, (hp.number?_eq_some_iff m.usual).mpr ⟨hm, hn⟩, scale, hu, hv.symm⟩

end Matcher

theorem ofText?_eq_none_iff :
    ofText? s = none ↔ ∀ n, Names s.toList n → maxSeconds < n := by
  rw [Option.eq_none_iff_forall_ne_some]
  constructor
  case mp  =>
    intro h n hn
    by_contra hm
    exact h ⟨n, Nat.not_lt.mp hm⟩ <| ofText?_eq_some_iff.mpr hn
  case mpr =>
    intro h d hd
    exact absurd (h _ <| ofText?_eq_some_iff.mp hd) <| Nat.not_lt.mpr d.bound

theorem ofText?_render (d : Span) : ofText? d.render = some d := by
  have hb : ∀ c ∈ ([] : List Char), Blank c := nofun
  have hm : Decimal (Nat.toDigits 10 d.seconds) d.seconds :=
    decimal_iff.mpr ⟨Nat.toDigits_ne_nil, fun _ hc =>
      Nat.isDigit_of_mem_toDigits (by decide) (by decide) hc, Nat.ofDigitChars_ten_toDigits⟩
  have hu : (String.ofList ['s'], 1) ∈ units := by decide
  have hn := Names.intro hb hm hu hb
  rw [ofText?_eq_some_iff]
  simpa [render] using hn

-- A span is read from a number and a unit and from nothing else, and is not read only if it is too
-- long to be held. It makes no difference to read it in layers, as what one of them lets through
-- too much is turned down by the next. Every span is read as it is written.
theorem reading_follows_grammar :
    (∀ s d, ofText? s = some d ↔ Names s.toList d.seconds) ∧
    (∀ s, ofText? s = none ↔ ∀ n, Names s.toList n → maxSeconds < n) ∧
    (∀ (m : Matcher) s, m.ofText? s = ofText? s) ∧
    ∀ d : Span, ofText? d.render = some d := by
  refine ⟨fun _ _ => ofText?_eq_some_iff, fun _ => ofText?_eq_none_iff, fun m s => ?_,
    ofText?_render⟩
  ext d
  rw [m.ofText?_eq_some_iff, ofText?_eq_some_iff]

-- A matcher that knows the digits of Arabic as well.
def Matcher.arabic : Matcher :=
  .longest (fun c => c.isDigit || (0x660 ≤ c.toNat && c.toNat ≤ 0x669)) fun c h => by
    have : ¬0x660 ≤ c.toNat := by omega
    simp [this]

-- Digits that were found but make up no number, the longest span in days, and one that is longer.
theorem reading_follows_grammar_of_arabic_digits :
    let longest : Span := { seconds := 18446744073709526400 }
    ((Matcher.arabic.match? "٣min".toList).isSome ∧ Matcher.arabic.ofText? "٣min" = none) ∧
    Matcher.arabic.ofText? "\u3000213503982334601d\n" = some longest ∧
    (∀ n, Names "213503982334602d".toList n → maxSeconds < n) ∧
    ofText? longest.render = some longest := by
  intro longest
  have ⟨hs, hn, hm, hr⟩ := reading_follows_grammar
  have hl : Names "\u3000213503982334601d\n".toList longest.seconds :=
    names_iff.mpr ⟨"213503982334601".toList, ['d'], 213503982334601, 86400, by decide,
      decimal_iff.mpr ⟨by decide, List.all_eq_true.mp <| by decide, by decide⟩, by decide,
      by decide⟩
  refine ⟨⟨by decide, (hm _ _).trans <| by decide⟩, (hm _ _).trans <| (hs _ _).mpr hl, ?_, hr _⟩
  exact (hn _).mp <| by decide

end Span
end TokenLifecycle
