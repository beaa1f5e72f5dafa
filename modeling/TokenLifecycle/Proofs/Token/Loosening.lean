import TokenLifecycle.Proofs.Token.Rules

namespace TokenLifecycle

variable {v w : Validator} {t : AccessToken} {s : Standing} {now : Instant} {r : Rejection}

namespace Leeway

variable {l l' : Leeway} {deadline start : Instant}

-- More leeway makes nothing that is open elapse, and nothing that has begun premature.

theorem Elapsed.of_le (hl : l.tolerance.seconds ≤ l'.tolerance.seconds)
    (h : l'.Elapsed deadline now) : l.Elapsed deadline now := by
  rw [elapsed_iff] at h ⊢
  omega

theorem Premature.of_le (hl : l.tolerance.seconds ≤ l'.tolerance.seconds)
    (h : l'.Premature start now) : l.Premature start now := by
  rw [premature_iff] at h ⊢
  omega

end Leeway

theorem Rejection.not_isIntegrityFailure_of_mem_timing {p : Policy} (h : r ∈ p.timing) :
    ¬r.IsIntegrityFailure := by
  cases p <;> simp only [Policy.timing, List.mem_cons, List.not_mem_nil, or_false] at h
  all_goals obtain rfl | rfl | rfl := h <;> exact id

namespace Validator

-- The token is turned down for what it is, which is looked at before the time.
theorem value_check_eq_integrityFailure_iff (hr : r.IsIntegrityFailure) :
    (v.check t now).value = .error r ↔
      Rejection.integrity.find? (v.Breaks t now ·) = some r := by
  rw [v.failsWith_check t now r, Policy.rules, List.find?_append, Option.or_eq_some_iff]
  refine ⟨fun h => h.resolve_right fun ht => ?_, .inl⟩
  exact Rejection.not_isIntegrityFailure_of_mem_timing (List.mem_of_find?_eq_some ht.2) hr

-- The second validator asks for no more than the first one.
structure LoosenedTo (v w : Validator) : Prop where
  key      : w.key = v.key
  policy   : w.policy = v.policy ∨ w.policy = .renewable
  leeway   : v.leeway.tolerance.seconds ≤ w.leeway.tolerance.seconds
  approved : v.algorithms ⊆ w.algorithms

namespace LoosenedTo

variable (h : v.LoosenedTo w)

include h

theorem admits (ha : v.Admits s now) : w.Admits s now where
  begun                := mt (.of_le h.leeway) ha.begun
  available ceiling hc := mt (.of_le h.leeway) <| ha.available ceiling hc
  live                 := by
    obtain he | ⟨hp, hr⟩ := ha.live
    case inl => exact .inl <| mt (.of_le h.leeway) he
    case inr =>
      have hp : w.policy = .renewable := h.policy.elim (·.trans hp) id
      exact .inr ⟨hp, mt (.of_le h.leeway) hr⟩

theorem value_check_eq_ok (hc : (v.check t now).value = .ok s) :
    (w.check t now).value = .ok s := by
  have ⟨hs, ha, hk, hn⟩ := value_check_eq_ok_iff.mp hc
  exact value_check_eq_ok_iff.mpr ⟨hs, h.approved ha, h.key ▸ hk, h.admits hn⟩

-- Of the rules that concern the token itself, only the one about its algorithm may be relaxed.

theorem breaks_iff (hr : r ∈ Rejection.integrity) (hn : r ≠ .unapprovedAlgorithm) :
    w.Breaks t now r ↔ v.Breaks t now r := by
  obtain ⟨f, _, rfl⟩ | rfl | rfl := Rejection.mem_integrity_iff.mp hr
  case inl     => rfl
  case inr.inl => exact absurd rfl hn
  case inr.inr => simp only [Breaks, h.key]

theorem breaks_unapprovedAlgorithm (hb : w.Breaks t now .unapprovedAlgorithm) :
    v.Breaks t now .unapprovedAlgorithm := by
  obtain ⟨a, ha, hn⟩ := hb
  have hw : a ∉ w.algorithms := by simpa [algorithms] using hn
  have hv : a ∉ v.algorithms := fun hm => hw <| h.approved hm
  exact ⟨a, ha, by simpa [algorithms] using hv⟩

theorem breaks_of_breaks (hr : r ∈ Rejection.integrity) (hb : w.Breaks t now r) :
    v.Breaks t now r := by
  by_cases hn : r = .unapprovedAlgorithm
  case pos =>
    subst hn
    exact h.breaks_unapprovedAlgorithm hb
  case neg => exact (h.breaks_iff hr hn).mp hb

theorem value_check_eq_error (hi : r.IsIntegrityFailure) (hn : r ≠ .unapprovedAlgorithm)
    (hc : (v.check t now).value = .error r) : (w.check t now).value = .error r := by
  rw [value_check_eq_integrityFailure_iff hi, List.find?_eq_some_iff_append] at hc ⊢
  obtain ⟨hb, rs, rs', hl, he⟩ := hc
  have hm {r' : Rejection} (hr : r' ∈ rs ++ r :: rs') : r' ∈ Rejection.integrity := hl ▸ hr
  refine ⟨?_, rs, rs', hl, fun r' hr' => ?_⟩
  · have hr := hm <| List.mem_append_right rs (.head _)
    simpa [h.breaks_iff hr hn] using hb
  · have hb' := he r' hr'
    simp only [Bool.not_eq_true', decide_eq_false_iff_not] at hb' ⊢
    exact mt (h.breaks_of_breaks <| hm <| List.mem_append_left _ hr') hb'

end LoosenedTo

-- What passes under a validator passes under every looser one, and means the same there. A token
-- that is turned down for what it is, and not for the algorithm it is signed with, is turned down
-- for the same reason.
theorem loosened_accepts (h : v.LoosenedTo w) (t : AccessToken) (now : Instant) :
    (∀ s, (v.check t now).value = .ok s → (w.check t now).value = .ok s) ∧
    ∀ r, r.IsIntegrityFailure → r ≠ .unapprovedAlgorithm →
      (v.check t now).value = .error r → (w.check t now).value = .error r :=
  ⟨fun _ => h.value_check_eq_ok, fun _ => h.value_check_eq_error⟩

-- A token in its last second that is not signed with the usual algorithm, and one that is not
-- signed with the algorithm that its header names. The second validator is looser in every respect.
theorem loosened_accepts_of_last_second :
    let k : Key := ⟨[0x6b]⟩
    let c : Claims := {
      issuedAt        := some { seconds := 1000 }
      expiry          := some { seconds := 1300 }
      refreshDeadline := some { seconds := 1200 }
      availability    := some .unbounded
      principal       := "alice" }
    let t := c.signed (.ofAlgorithm .hs512) .hs512 k
    let v : Validator := { key := k, policy := .strict, leeway := .strict, approved := [.hs512] }
    let w : Validator := { key := k, policy := .renewable, approved := [.hs384, .hs512, .hs512] }
    let now : Instant := { seconds := 1300 }
    v.LoosenedTo w ∧ (∃ s, (v.check t now).value = .ok s ∧ (w.check t now).value = .ok s) ∧
      (w.check (c.signed (.ofAlgorithm .hs512) .hs256 k) now).value =
        .error .signatureMismatch := by
  intro k c t v w now
  have hl : v.LoosenedTo w := ⟨rfl, .inr rfl, by decide, by decide⟩
  let st : Standing :=
    ⟨.hs512, { seconds := 1000 }, { seconds := 1300 }, { seconds := 1200 }, .unbounded⟩
  have hs (a : Algorithm) : (c.signed (.ofAlgorithm .hs512) a k).HasStanding st :=
    ⟨rfl, nofun, rfl, rfl, nofun, rfl, rfl⟩
  have ht : v.Trusts t st :=
    ⟨hs .hs512, by decide, (c.signedBy_signed_iff _ _ _ _).mpr ⟨by decide, rfl⟩⟩
  have ⟨s, hc⟩ : v.Passes t now :=
    ht.passes_iff.mpr ⟨by decide, nofun, .inl <| by decide⟩
  have hb : ¬(c.signed (.ofAlgorithm .hs512) .hs256 k).SignedBy v.key st.algorithm :=
    mt (c.signedBy_signed_iff _ _ _ _).mp fun hb => nomatch hb.2
  have he : (v.check (c.signed (.ofAlgorithm .hs512) .hs256 k) now).value =
      .error .signatureMismatch := by
    rw [value_check_of_standing (hs .hs256), if_neg (by decide), if_pos hb]
  exact ⟨hl, ⟨s, hc, (loosened_accepts hl t now).1 s hc⟩,
    (loosened_accepts hl _ now).2 _ trivial nofun he⟩

end Validator
end TokenLifecycle
