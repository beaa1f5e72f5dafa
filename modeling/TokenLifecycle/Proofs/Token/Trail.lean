import TokenLifecycle.Proofs.Token.Outcome
import TokenLifecycle.Proofs.Token.Rekeying

namespace TokenLifecycle

variable {t : AccessToken} {st : Standing} {r : Rejection} {v : Validator} {s : Settings}
variable {token : String} {extension : Span} {now : Instant}

-- What is reported before a token is turned down. Only the signature is reported on its own.
def Rejection.trail : Rejection → List Event
  | .signatureMismatch => [.verificationFailed]
  | _                  => []

namespace Rejection

theorem trail_of_ne (h : r ≠ .signatureMismatch) : r.trail = [] := by
  cases r
  case signatureMismatch => exact absurd rfl h
  all_goals rfl

theorem countP_trail (r : Rejection) (q : Event → Prop) [DecidablePred q] :
    r.trail.countP (q ·) = if r = .signatureMismatch ∧ q .verificationFailed then 1 else 0 := by
  by_cases hr : r = .signatureMismatch
  case neg => simp [trail_of_ne hr, hr]
  case pos =>
    subst hr
    simp [trail, List.countP_cons]

theorem mem_trail_iff {e : Event} :
    e ∈ r.trail ↔ r = .signatureMismatch ∧ e = .verificationFailed := by
  by_cases hr : r = .signatureMismatch
  case neg => simp [trail_of_ne hr, hr]
  case pos =>
    subst hr
    simp [trail]

end Rejection

-- What is reported before a renewal is refused.
def InvalidToken.trail : InvalidToken → List Event
  | .notAvailable r => r.trail
  | _               => []

theorem InvalidToken.countP_trail (cause : InvalidToken) (q : Event → Prop) [DecidablePred q] :
    cause.trail.countP (q ·) =
      if cause = .notAvailable .signatureMismatch ∧ q .verificationFailed then 1 else 0 := by
  cases cause
  case notAvailable r => simp [trail, r.countP_trail]
  all_goals simp [trail]

theorem Policy.signatureMismatch_not_mem_timing (p : Policy) : .signatureMismatch ∉ p.timing := by
  cases p <;> decide

namespace Validator

-- No rule about the time has to do with the signature.
theorem trail_of_judge_eq_error (h : t.HasStanding st) (he : v.judge st now = .error r) :
    r.trail = [] := by
  have hm := List.mem_of_find?_eq_some <| (failsWith_judge h r).mp he
  exact Rejection.trail_of_ne fun hr => v.policy.signatureMismatch_not_mem_timing (hr ▸ hm)

end Validator

namespace AccessToken

variable {k : Key} {a : Algorithm}

theorem verify_of_signedBy (ha : t.header.algorithm = some a) (h : t.SignedBy k a) :
    t.verify k = pure (.ok ()) := by
  simp only [verify, ha]
  exact if_pos h

theorem verify_of_not_signedBy (ha : t.header.algorithm = some a) (h : ¬t.SignedBy k a) :
    t.verify k = .reporting .verificationFailed (.error .signatureMismatch) := by
  simp only [verify, ha]
  exact if_neg h

end AccessToken

namespace Validator

-- A check is silent unless it is the signature that is wrong.

theorem check_of_ok (h : (v.check t now).value = .ok st) : v.check t now = ⟨.ok st, []⟩ := by
  have ⟨hs, ha, hk, _⟩ := value_check_eq_ok_iff.mp h
  refine Logged.ext h ?_
  simp only [check, AccessToken.standing_eq_ok_iff.mpr hs, if_pos ha,
    AccessToken.verify_of_signedBy hs.algorithm hk]
  rfl

theorem check_of_error (h : (v.check t now).value = .error r) :
    v.check t now = ⟨.error r, r.trail⟩ := by
  refine Logged.ext h ?_
  cases hs : t.standing
  case error f =>
    rw [value_check_of_missing hs] at h
    cases h
    rw [check, hs]
    rfl
  case ok st =>
    have hs := AccessToken.standing_eq_ok_iff.mp hs
    rw [value_check_of_standing hs] at h
    by_cases ha : st.algorithm ∈ v.algorithms
    case neg =>
      rw [if_pos ha] at h
      cases h
      simp only [check, AccessToken.standing_eq_ok_iff.mpr hs, if_neg ha]
      rfl
    case pos =>
      rw [if_neg (not_not.mpr ha)] at h
      simp only [check, AccessToken.standing_eq_ok_iff.mpr hs, if_pos ha]
      by_cases hk : t.SignedBy v.key st.algorithm
      case neg =>
        rw [if_pos hk] at h
        cases h
        rw [AccessToken.verify_of_not_signedBy hs.algorithm hk]
        rfl
      case pos =>
        rw [if_neg (not_not.mpr hk)] at h
        rw [AccessToken.verify_of_signedBy hs.algorithm hk, trail_of_judge_eq_error hs h]
        rfl

-- What is reported of a token, and how it is judged.
theorem accepts_of_ok (h : (v.check t now).value = .ok st) : v.accepts t now = ⟨true, []⟩ := by
  rw [accepts, check_of_ok h]
  rfl

theorem accepts_of_error (h : (v.check t now).value = .error r) :
    v.accepts t now = ⟨false, r.trail ++ [.rejected v.policy r]⟩ := by
  rw [accepts, check_of_error h]
  rfl

end Validator

-- A key that signs nothing is reported.
theorem Claims.seal_of_empty {k : Key} (hk : k.Empty) (c : Claims) :
    c.seal k = .reporting (.signingFailed .emptyKey) (.error .emptyKey) := by
  rw [Claims.seal, c.sign_eq_error _ _ k hk]

namespace Settings

-- How a renewal ends, together with what is reported on the way.

theorem renew_of_unreadable {e : Malformed} (ht : AccessToken.read token = .error e) :
    s.renew token extension now =
      ⟨.error <| .invalid <| .malformed e, [.renewalOfUnreadable e]⟩ := by
  rw [renew, ht]
  rfl

theorem renew_of_rejected (ht : AccessToken.read token = .ok t)
    (hc : (s.renewer.check t now).value = .error r) :
    s.renew token extension now =
      ⟨.error <| .invalid <| .notAvailable r, r.trail ++ [.renewalOfRejected r]⟩ := by
  have hc : Validator.check ⟨s.key, .renewable, s.leeway, []⟩ t now = ⟨.error r, r.trail⟩ :=
    Validator.check_of_error hc
  simp only [renew, ht, hc]
  rfl

theorem renew_of_elapsed (ht : AccessToken.read token = .ok t)
    (hc : (s.renewer.check t now).value = .ok st) (he : s.leeway.Elapsed st.refreshDeadline now) :
    s.renew token extension now =
      ⟨.error <| .invalid .refreshWindowExpired,
        [.refreshWindowExpired st.refreshDeadline now]⟩ := by
  have hc' : Validator.check ⟨s.key, .renewable, s.leeway, []⟩ t now = ⟨.ok st, []⟩ :=
    Validator.check_of_ok hc
  refine Logged.ext (value_renew_of_elapsed ht hc he) ?_
  simp only [renew, ht, hc', Logged.events_bind, if_pos he]
  rfl

theorem renew_of_timely (ht : AccessToken.read token = .ok t)
    (hc : (s.renewer.check t now).value = .ok st) (he : ¬s.leeway.Elapsed st.refreshDeadline now) :
    let c := t.claims.renewed st.availability s extension now
    s.renew token extension now =
      ⟨.ok (c.sealed s.key).encoded, [.renewed c.expiry c.refreshDeadline]⟩ := by
  have hk : ¬s.key.Empty := (Validator.value_check_eq_ok_iff.mp hc).2.2.1.usable
  have hc' : Validator.check ⟨s.key, .renewable, s.leeway, []⟩ t now = ⟨.ok st, []⟩ :=
    Validator.check_of_ok hc
  refine Logged.ext (value_renew_eq_ok_iff.mpr ⟨t, st, ht, hc, he, rfl⟩) ?_
  simp only [renew, ht, hc', Logged.events_bind, if_neg he, Claims.seal_eq_pure hk]
  rfl

end Settings
end TokenLifecycle
