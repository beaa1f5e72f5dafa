import TokenLifecycle.Proofs.Disclosure
import TokenLifecycle.Proofs.Text.Places

namespace TokenLifecycle

variable {w n i : Nat} {c : Char} {cs p g : List Char}

namespace Utf8

-- No character is without bytes, so whatever is left out takes some.
theorem size_take_lt_iff : size (cs.take n) < size cs ↔ n < cs.length := by
  have hs : size cs = size (cs.take n) + size (cs.drop n) := by
    rw [← size_append, List.take_append_drop]
  have hl := length_le_size (cs.drop n)
  rw [List.length_drop] at hl
  constructor
  case mp =>
    intro h
    by_contra hn
    rw [List.take_of_length_le (Nat.not_lt.mp hn)] at h
    exact Nat.lt_irrefl _ h
  case mpr => omega

-- The text up to the width and a mark for what is left out, found among the bytes. The width is
-- compared with the number of bytes before it is used to count characters.
def reveal? (w : Nat) (cs : List Char) : Option (List Char) :=
  if w ≤ 1 then some ['…']
  else if size cs < w then some cs
  else
    match (places cs)[w - 2]? with
    | none        => some cs
    | some (i, c) =>
      if i + c.utf8Size < size cs then (before? (i + c.utf8Size) cs).map (· ++ ['…'])
      else some cs

theorem reveal?_eq (w : Nat) (cs : List Char) : reveal? w cs = some (reveal (some w) cs) := by
  unfold reveal?
  split
  case isTrue hw  => rw [reveal, if_pos hw]
  case isFalse hw =>
    have hw := Nat.not_le.mp hw
    split
    case isTrue hs =>
      rw [reveal_of_lt hw <| Nat.lt_of_le_of_lt (length_le_size cs) hs]
    case isFalse =>
      rw [places, getElem?_placesFrom, Nat.zero_add]
      cases hc : cs[w - 2]?
      case none   =>
        have := List.getElem?_eq_none_iff.mp hc
        exact congrArg some (reveal_of_lt hw <| by omega).symm
      case some c =>
        have ht : cs.take (w - 1) = cs.take (w - 2) ++ [c] := by
          rw [show w - 1 = w - 2 + 1 by omega, List.take_add_one, hc, Option.toList_some]
        have hn : size (cs.take (w - 2)) + c.utf8Size = size (cs.take (w - 1)) := by
          simp [ht]
        simp only [Option.map_some, hn, size_take_lt_iff]
        split
        case isTrue hl =>
          have hb : before? (size (cs.take (w - 1))) cs = some (cs.take (w - 1)) := by
            simpa using before?_append (cs.take (w - 1)) (cs.drop (w - 1))
          rw [hb, reveal_of_le hw (by omega), Option.map_some]
        case isFalse hl => rw [reveal_of_lt hw (by omega)]

-- What stands up to the last dot, and what stands behind it, found among the bytes.
def splitLastDot? (cs : List Char) : Option (List Char × List Char) :=
  match (places cs).reverse.find? (·.2 = '.') with
  | none        => some ([], cs)
  | some (i, _) => do return (← before? (i + 1) cs, ← after? (i + 1) cs)

theorem splitLastDot?_of_not_mem (h : '.' ∉ g) : splitLastDot? g = some ([], g) := by
  rw [splitLastDot?, places, find?_places_of_not_mem 0 h]

theorem splitLastDot?_append_dot (p : List Char) (h : '.' ∉ g) :
    splitLastDot? (p ++ '.' :: g) = some (p ++ ['.'], g) := by
  rw [splitLastDot?, find?_places_append_dot p h]
  simp only [before?_append_dot, after?_append_dot]
  rfl

theorem splitLastDot?_eq (cs : List Char) :
    splitLastDot? cs = some (Confidential.token.split cs) := by
  by_cases h : '.' ∈ cs
  case pos =>
    have ⟨p, g, hg, hc⟩ := Segments.exists_last_dot h
    rw [hc, splitLastDot?_append_dot p hg, Confidential.split_token_append_dot p hg]
  case neg => rw [splitLastDot?_of_not_mem h, Confidential.split_token_of_not_mem h]

end Utf8

-- How much of a text is shown to whom asks for the width.
structure Reveals (w : Nat) (cs text : List Char) : Prop where
  nothing : w ≤ 1 → text = ['…']
  all     : 2 ≤ w → cs.length < w → text = cs
  part    : 2 ≤ w → w ≤ cs.length → text = cs.take (w - 1) ++ ['…']
  bound   : text.length ≤ max w 1

theorem reveals_reveal (w : Nat) (cs : List Char) : Reveals w cs (reveal (some w) cs) where
  nothing hw := if_pos hw
  all hw h   := reveal_of_lt hw h
  part hw h  := reveal_of_le hw h
  bound      := length_reveal_le w cs

-- Without a width, the largest number there is does as well.
theorem reveal_getD {largest : Nat} (hl : 1 < largest) (h : cs.length < largest)
    (width : Option Nat) : reveal (some <| width.getD largest) cs = reveal width cs := by
  cases width
  case none   => exact reveal_of_lt hl h
  case some w => rfl

namespace Confidential

-- In the forms that may disclose something, the text is shown up to a part of it, which is
-- revealed. In quotes there is a width even if none is asked for.
structure Discloses (k : Confidential) (default : Nat) (shown rest : List Char) : Prop where
  plain  : ∀ width, k.render ⟨false, true, width⟩ (.ofList <| shown ++ rest) =
             .ofList (shown ++ reveal width rest)
  quoted : ∀ width, k.render ⟨true, true, width⟩ (.ofList <| shown ++ rest) =
             .ofList ('"' :: (shown ++ reveal (some <| width.getD default) rest) ++ ['"'])

theorem discloses_of_split {k : Confidential} {shown rest : List Char}
    (h : k.split (shown ++ rest) = (shown, rest)) : k.Discloses k.quotedWidth shown rest where
  plain width  := by
    simp [render, disclose, String.toList_ofList, h]
  quoted width := by
    cases width
    case none   => simp [render, disclose, String.toList_ofList, h]
    case some w => simp [render, disclose, String.toList_ofList, h]

-- Nothing of the text is lost.
theorem split_fst_append_snd (k : Confidential) (cs : List Char) :
    (k.split cs).1 ++ (k.split cs).2 = cs := by
  cases k
  case token =>
    by_cases h : '.' ∈ cs
    case pos =>
      have ⟨p, g, hg, hc⟩ := Segments.exists_last_dot h
      rw [hc, split_token_append_dot p hg, List.append_assoc, List.singleton_append]
    case neg => rw [split_token_of_not_mem h, List.nil_append]
  all_goals rfl

theorem render_plain (k : Confidential) (s : String) : k.render ⟨false, true, none⟩ s = s := by
  simp [render, disclose, reveal, split_fst_append_snd]

-- What is rendered, put together from bytes. The width is the largest number there is if there is
-- no other.

def split? : Confidential → List Char → Option (List Char × List Char)
  | token, cs => Utf8.splitLastDot? cs
  | _,     cs => some ([], cs)

def rendering? (k : Confidential) (largest : Nat) (f : Form) (s : String) : Option String := do
  let (shown, rest) ← k.split? s.toList
  let width         := f.width.getD <| if f.quoted then k.quotedWidth else largest
  let text          := shown ++ (← Utf8.reveal? width rest)
  return .ofList <| if f.quoted then '"' :: text ++ ['"'] else text

theorem split?_eq (k : Confidential) (cs : List Char) : k.split? cs = some (k.split cs) := by
  cases k
  case token => exact Utf8.splitLastDot?_eq cs
  all_goals rfl

theorem rendering?_eq {f : Form} {s : String} {largest : Nat} (hf : f.alternate)
    (hl : 1 < largest) (hs : Utf8.size s.toList < largest) (k : Confidential) :
    k.rendering? largest f s = some (k.render f s) := by
  have hr : (k.split s.toList).2.length < largest := by
    have hc := congrArg List.length <| k.split_fst_append_snd s.toList
    have := Utf8.length_le_size s.toList
    rw [List.length_append] at hc
    omega
  have hw : (f.width.getD <| if f.quoted then k.quotedWidth else largest) =
      (f.width.or <| if f.quoted then some k.quotedWidth else none).getD largest := by
    cases f.width <;> cases f.quoted <;> rfl
  simp only [rendering?, split?_eq, Option.bind_eq_bind, Option.bind_some, Utf8.reveal?_eq, hw,
    reveal_getD hl hr, render, if_pos hf, disclose]
  rfl

-- Nobody sees more of a text than was asked for, and no text is cut within a character. Of a token,
-- all up to the last dot is seen by everybody who asks for anything.
theorem reveals_up_to_width :
    (∀ w cs, Utf8.reveal? w cs = some (reveal (some w) cs) ∧
      Reveals w cs (reveal (some w) cs)) ∧
    (∀ cs, secret.Discloses 0 [] cs ∧ target.Discloses 12 [] cs) ∧
    (∀ g, '.' ∉ g → token.Discloses 0 [] g ∧ ∀ p, token.Discloses 0 (p ++ ['.']) g) ∧
    (∀ k s, render k ⟨false, true, none⟩ s = s) ∧
    ∀ k f s largest, f.alternate → 1 < largest → Utf8.size s.toList < largest →
      rendering? k largest f s = some (k.render f s) := by
  refine ⟨fun w cs => ⟨Utf8.reveal?_eq w cs, reveals_reveal w cs⟩,
    fun cs => ⟨discloses_of_split rfl, discloses_of_split rfl⟩, fun g hg => ⟨?_, fun p => ?_⟩,
    render_plain, fun k _ _ _ hf hl hs => k.rendering?_eq hf hl hs⟩
  · exact discloses_of_split (split_token_of_not_mem hg)
  · have hp : (p ++ ['.']) ++ g = p ++ '.' :: g := by simp
    exact discloses_of_split (hp ▸ split_token_append_dot p hg)

-- The last segment has three characters of two bytes each.
theorem reveals_up_to_width_of_umlauts :
    let g := "äöü".toList
    token.render ⟨true, true, some 3⟩ (.ofList <| "h.p".toList ++ ['.'] ++ g) = "\"h.p.äö…\"" ∧
    token.render .inQuotes (.ofList <| "h.p".toList ++ ['.'] ++ g) = "\"h.p.…\"" ∧
    Utf8.size g = 6 ∧ Utf8.reveal? 4 g = some g ∧
    token.rendering? maxSeconds ⟨false, true, some 2⟩ "h.p.äöü" =
      some (token.render ⟨false, true, some 2⟩ "h.p.äöü") := by
  intro g
  have ⟨hw, _, ht, _, hr⟩ := reveals_up_to_width
  have ht := (ht g (by decide)).2 "h.p".toList
  have ⟨hb, ha⟩ := hw 4 g
  refine ⟨(ht.quoted (some 3)).trans <| by decide, (ht.quoted none).trans <| by decide, by decide,
    ha.all (by decide) (by decide) ▸ hb, hr _ _ _ _ rfl (by decide) (by decide)⟩

end Confidential
end TokenLifecycle
