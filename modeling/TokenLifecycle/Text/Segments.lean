namespace TokenLifecycle.Segments

-- The parts of a text between its dots.
def split : List Char → List (List Char)
  | []      => [[]]
  | c :: cs =>
    if c = '.' then
      [] :: split cs
    else
      match split cs with
      | []      => [[c]]
      | s :: ss => (c :: s) :: ss

-- There is one more part than there are dots.
theorem length_split (cs : List Char) : (split cs).length = cs.count '.' + 1 := by
  induction cs with
  | nil => rfl
  | cons c cs hi =>
    simp only [split]
    by_cases h : c = '.'
    case pos => simp [h, hi]
    case neg => cases hs : split cs <;> simp_all

theorem split_of_not_mem {s : List Char} (h : '.' ∉ s) : split s = [s] := by
  induction s
  case nil => rfl
  case cons c s hi =>
    have ⟨hc, hs⟩ : '.' ≠ c ∧ '.' ∉ s := by simpa using h
    simp only [split, if_neg (Ne.symm hc), hi hs]

-- What stands before the first dot is a part of its own.
theorem split_append_dot {s : List Char} (h : '.' ∉ s) (cs : List Char) :
    split (s ++ '.' :: cs) = s :: split cs := by
  induction s
  case nil => rfl
  case cons c s hi =>
    have ⟨hc, hs⟩ : '.' ≠ c ∧ '.' ∉ s := by simpa using h
    simp only [List.cons_append, split, if_neg (Ne.symm hc), hi hs]

theorem split_ne_nil (cs : List Char) : split cs ≠ [] := by
  rw [← List.length_pos_iff, length_split]
  exact Nat.succ_pos _

theorem not_mem_of_mem_split {s cs : List Char} (h : s ∈ split cs) : '.' ∉ s := by
  induction cs generalizing s
  case nil => simp_all [split]
  case cons c cs hi =>
    simp only [split] at h
    split at h
    case isTrue hc =>
      obtain rfl | h := List.mem_cons.mp h
      case inl => nofun
      case inr => exact hi h
    case isFalse hc =>
      split at h
      case h_1 hs => exact absurd hs <| split_ne_nil cs
      case h_2 s' ss hs =>
        obtain rfl | h := List.mem_cons.mp h
        case inl => simpa [Ne.symm hc] using hi (hs ▸ .head _)
        case inr => exact hi (hs ▸ .tail _ h)

-- Nothing but the dots is lost.
theorem intercalate_split (cs : List Char) : ['.'].intercalate (split cs) = cs := by
  induction cs
  case nil => rfl
  case cons c cs hi =>
    simp only [split]
    split
    case isTrue hc =>
      obtain ⟨s, ss, hs⟩ := List.exists_cons_of_ne_nil <| split_ne_nil cs
      rw [hs] at hi ⊢
      rw [List.intercalate_cons_cons, hi, hc]
      rfl
    case isFalse =>
      split
      case h_1 hs => exact absurd hs <| split_ne_nil cs
      case h_2 s ss hs =>
        rw [hs] at hi
        cases ss <;> simp_all [List.intercalate]

-- Three parts are those between two dots, if there are no other dots.
theorem split_eq_triple_iff {cs h p g : List Char} :
    split cs = [h, p, g] ↔
      ('.' ∉ h ∧ '.' ∉ p ∧ '.' ∉ g) ∧ cs = h ++ '.' :: (p ++ '.' :: g) where
  mp hs := by
    have hd {s} (hm : s ∈ [h, p, g]) : '.' ∉ s := not_mem_of_mem_split (hs ▸ hm)
    refine ⟨⟨hd <| .head _, hd <| .tail _ <| .head _, hd <| .tail _ <| .tail _ <| .head _⟩, ?_⟩
    rw [← intercalate_split cs, hs]
    simp [List.intercalate]
  mpr := by
    intro ⟨⟨hh, hp, hg⟩, hc⟩
    rw [hc, split_append_dot hh, split_append_dot hp, split_of_not_mem hg]

-- Where two dots are put in, there are three parts only if there were no dots before.
theorem eq_of_split_eq_triple {h p g h' p' g' : List Char}
    (hs : split (h ++ '.' :: (p ++ '.' :: g)) = [h', p', g']) : h' = h ∧ p' = p ∧ g' = g := by
  have hl := (length_split _).symm.trans <| congrArg List.length hs
  simp only [List.count_append, List.count_cons_self, List.length_cons, List.length_nil] at hl
  have hd {s : List Char} (hc : s.count '.' = 0) : '.' ∉ s := List.count_eq_zero.mp hc
  rw [split_append_dot (hd <| by omega), split_append_dot (hd <| by omega),
    split_of_not_mem (hd <| by omega)] at hs
  simpa [eq_comm] using hs

theorem exists_last_dot {cs : List Char} (h : '.' ∈ cs) : ∃ p g, '.' ∉ g ∧ cs = p ++ '.' :: g := by
  have ⟨g, p, hc, hg⟩ := List.eq_append_cons_of_mem <| List.mem_reverse.mpr h
  refine ⟨p.reverse, g.reverse, mt List.mem_reverse.mp hg, ?_⟩
  rw [← List.reverse_reverse cs, hc]
  simp

end TokenLifecycle.Segments
