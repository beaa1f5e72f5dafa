import TokenLifecycle.Json.Value

namespace TokenLifecycle.Json

variable {ms ms₁ ms₂ : List (String × Json)} {name : String} {v : Json}
variable {read? : Json → Option α} {absent x : α}

-- No two members have the name.
def AtMostOnce (ms : List (String × Json)) (name : String) : Prop :=
  (ms.map Prod.fst).count name ≤ 1

instance (ms : List (String × Json)) (name : String) : Decidable (AtMostOnce ms name) :=
  inferInstanceAs (Decidable (_ ≤ _))

theorem atMostOnce_iff : AtMostOnce ms name ↔ (ms.filter (·.1 = name)).length ≤ 1 := by
  rw [AtMostOnce, List.count, List.countP_map, List.countP_eq_length_filter]
  rfl

-- The members of a name are none at all, a single one, or too many.
inductive Occurrence (ms : List (String × Json)) (name : String) : List (String × Json) → Prop
  | none : (∀ v, (name, v) ∉ ms) → AtMostOnce ms name → Occurrence ms name []
  | one {v : Json} : (∀ w, (name, w) ∈ ms ↔ w = v) → AtMostOnce ms name →
    Occurrence ms name [(name, v)]
  | many {m₁ m₂ : String × Json} {r : List (String × Json)} : ¬AtMostOnce ms name →
    Occurrence ms name (m₁ :: m₂ :: r)

theorem occurrence (ms : List (String × Json)) (name : String) :
    Occurrence ms name (ms.filter (·.1 = name)) := by
  have hc : AtMostOnce ms name ↔ _ := atMostOnce_iff
  have hm (w : Json) : (name, w) ∈ ms ↔ (name, w) ∈ ms.filter (·.1 = name) := by simp
  have hn (m) (h : m ∈ ms.filter (·.1 = name)) : m.1 = name := by
    simpa using (List.mem_filter.mp h).2
  generalize ms.filter (·.1 = name) = found at hc hm hn
  match found with
  | []          => exact .none (fun w hw => nomatch (hm w).mp hw) (hc.mpr <| Nat.zero_le 1)
  | [(n, v)]    =>
    obtain rfl : n = name := hn _ <| .head _
    exact .one (fun w => (hm w).trans <| by simp) (hc.mpr <| Nat.le_refl 1)
  | _ :: _ :: _ => exact .many <| mt hc.mp <| by simp

theorem member?_eq_some_iff :
    member? ms name absent read? = some x ↔
      AtMostOnce ms name ∧ (∀ v, (name, v) ∈ ms → read? v = some x) ∧
        ((∀ v, (name, v) ∉ ms) → absent = x) := by
  have ho := occurrence ms name
  unfold member?
  generalize ms.filter (·.1 = name) = found at ho
  cases ho
  case none hn h  => simp [h, hn]
  case one v h₁ h => simp [h, h₁]
  case many hm    => simp [hm]

theorem exists_member?_eq_some_iff :
    (∃ x, member? ms name absent read? = some x) ↔
      AtMostOnce ms name ∧ ∀ v, (name, v) ∈ ms → ∃ x, read? v = some x := by
  have ho := occurrence ms name
  unfold member?
  generalize ms.filter (·.1 = name) = found at ho
  cases ho
  case none hn h  => simp [h, hn]
  case one v h₁ h => simp [h, h₁]
  case many hm    => simp [hm]

theorem exists_nullOr_eq_some_iff :
    (∃ x, nullOr read? v = some x) ↔ v = null ∨ ∃ a, read? v = some a := by
  unfold nullOr
  split
  case h_1    => simp
  case h_2 hv =>
    have hv : v ≠ null := hv
    cases read? v <;> simp [hv]

theorem exists_member?_nullOr_eq_some_iff :
    (∃ x, member? ms name none (nullOr read?) = some x) ↔
      AtMostOnce ms name ∧ ∀ v, (name, v) ∈ ms → v = null ∨ ∃ a, read? v = some a := by
  simp only [exists_member?_eq_some_iff, exists_nullOr_eq_some_iff]

-- Null is taken for nothing, and anything else for what it is.
theorem nullOr_eq_some_iff {x : Option α} (hn : read? null = none) :
    nullOr read? v = some x ↔
      (v = null ∨ ∃ a, read? v = some a) ∧ ∀ a, x = some a ↔ read? v = some a := by
  unfold nullOr
  split
  case h_1    => simp [hn, Option.eq_none_iff_forall_ne_some, eq_comm]
  case h_2 hv =>
    have hv : v ≠ null := hv
    cases hr : read? v
    case none   => simp [hv]
    case some a =>
      simp only [Option.map_some, Option.some.injEq, hv, exists_eq', or_true, true_and]
      exact ⟨fun h _ => h ▸ Option.some_inj, fun h => ((h a).mpr rfl).symm⟩

theorem member?_nullOr_eq_some_iff {x : Option α} (hn : read? null = none) :
    member? ms name none (nullOr read?) = some x ↔
      AtMostOnce ms name ∧ (∀ v, (name, v) ∈ ms → v = null ∨ ∃ a, read? v = some a) ∧
        ∀ a, x = some a ↔ ∃ v, (name, v) ∈ ms ∧ read? v = some a := by
  have ho := occurrence ms name
  unfold member?
  generalize ms.filter (·.1 = name) = found at ho
  cases ho
  case none hm h  => simp [h, hm, Option.eq_none_iff_forall_ne_some, eq_comm]
  case one v h₁ h => simp [h, h₁, nullOr_eq_some_iff hn]
  case many hm    => simp [hm]

-- The order of the members of a name makes no difference, so that of all members makes none.
theorem member?_perm (h : (ms₁.filter (·.1 = name)).Perm (ms₂.filter (·.1 = name))) :
    member? ms₁ name absent read? = member? ms₂ name absent read? := by
  unfold member?
  generalize ms₁.filter (·.1 = name) = found₁, ms₂.filter (·.1 = name) = found₂ at h
  have hl := h.length_eq
  match found₁, found₂ with
  | [],          []          => rfl
  | [_],         [_]         =>
    obtain rfl := List.singleton_perm_singleton.mp h
    rfl
  | _ :: _ :: _, _ :: _ :: _ => rfl

end TokenLifecycle.Json
