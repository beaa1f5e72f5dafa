import TokenLifecycle.Proofs.Gate.Availability
import TokenLifecycle.Proofs.Token.Variants

namespace TokenLifecycle

variable {k : Key} {s : Settings} {v : Validator} {t : AccessToken} {now : Instant}

-- An empty key is noticed before the time is looked at, by whatever comes first: there is no
-- algorithm, it is not approved, or the signature does not count.
theorem Validator.exists_integrityFailure_of_empty (hk : v.key.Empty) :
    ∃ r, (v.check t now).value = .error r ∧ r.IsIntegrityFailure := by
  have hb : ∃ r ∈ Rejection.integrity, v.Breaks t now r := by
    cases ha : t.header.algorithm
    case none   => exact ⟨.missing .algorithm, by decide, not_not.mpr ha⟩
    case some a => exact ⟨.signatureMismatch, by decide, a, ha, .inl hk⟩
  have hi : (Rejection.integrity.find? (v.Breaks t now ·)).isSome := by
    simpa [List.find?_isSome] using hb
  have ⟨r, hr⟩ := Option.isSome_iff_exists.mp hi
  refine ⟨r, (v.failsWith_check t now r).mpr ?_, ?_⟩
  · rw [Policy.rules, List.find?_append, hr, Option.some_or]
  · exact Rejection.isIntegrityFailure_of_mem <| List.mem_of_find?_eq_some hr

theorem Settings.exists_value_renew_eq_invalid_of_empty (hk : s.key.Empty) (token : String)
    (extension : Span) (now : Instant) :
    ∃ cause, (s.renew token extension now).value = .error (.invalid cause) := by
  have ⟨outcome, h⟩ := s.exists_ends token extension now
  rw [h.value_renew_eq]
  cases h
  case unreadable    => exact ⟨_, rfl⟩
  case rejected      => exact ⟨_, rfl⟩
  case elapsed       => exact ⟨_, rfl⟩
  case renewed hc _ => exact absurd ⟨_, hc⟩ <| Validator.not_passes_of_empty hk

-- No settings that are read from variables have an empty key.
theorem Settings.not_empty_of_lookup {lookup : String → Option String}
    (h : (Settings.lookup lookup).value = .ok s) : ¬s.key.Empty := by
  unfold Settings.lookup at h
  split at h
  case h_1 => cases h
  case h_2 => cases h
  case h_3 key hn _ =>
    cases h
    exact Utf8.encode_ne_nil <| mt String.toList_eq_nil_iff.mp hn

namespace Key

-- Whatever is asked of the key is refused. A renewal is refused on account of the token that is to
-- be renewed, as no token passes that could give rise to a new one.
structure Shut (k : Key) : Prop where
  sign        : ∀ a message, k.sign a message = .error .emptyKey
  accepts     : ∀ a message signature, ¬k.Accepts a message signature
  verify      : ∀ t : AccessToken, ∃ r, (t.verify k).value = .error r
  check       : ∀ (v : Validator) t now, v.key = k →
                  ∃ r, (v.check t now).value = .error r ∧ r.IsIntegrityFailure
  isValid     : ∀ (t : AccessToken) now, ¬(t.isValid k now).value
  isAvailable : ∀ (t : AccessToken) now, ¬(t.isAvailable k now).value
  issue       : ∀ (s : Settings) principal now, s.key = k →
                  (s.issue principal now).value = .error .emptyKey
  renew       : ∀ (s : Settings) token extension now, s.key = k →
                  ∃ cause, (s.renew token extension now).value = .error (.invalid cause)
  gate        : ∀ (δ : Type) (g : Gate δ) token now, g.settings.key = k →
                  ¬(g.isValid token now).value ∧ ¬(g.isAvailable token now).value

theorem not_value_isValid_of_empty (hk : k.Empty) : ¬(t.isValid k now).value := by
  intro hv
  have hp := Validator.value_accepts_iff.mp hv
  exact Validator.not_passes_of_empty hk hp

theorem not_value_isAvailable_of_empty (hk : k.Empty) : ¬(t.isAvailable k now).value := by
  intro hv
  have hp := Validator.value_accepts_iff.mp hv
  exact Validator.not_passes_of_empty hk hp

theorem shut_of_empty (hk : k.Empty) : k.Shut where
  sign _ _          := if_pos hk
  accepts _ _ _ ha  := ha.usable hk
  verify t          := by
    refine Except.exists_eq_error_of_ne_ok fun _ hv => ?_
    have ⟨_, _, hs⟩ := AccessToken.value_verify_eq_ok_iff_exists.mp hv
    exact hs.usable hk
  check v t now hv  := Validator.exists_integrityFailure_of_empty (hv ▸ hk)
  isValid _ _       := not_value_isValid_of_empty hk
  isAvailable _ _   := not_value_isAvailable_of_empty hk
  issue s p now hs  := (s.value_issue_eq_error_iff p now).mpr (hs ▸ hk)
  renew s _ _ _ hs  := s.exists_value_renew_eq_invalid_of_empty (hs ▸ hk) ..
  gate _ g _ _ hg   := by
    constructor
    · intro hv
      have ⟨_, _, hv⟩ := Gate.value_judge_iff.mp hv
      exact not_value_isValid_of_empty (hg ▸ hk) hv
    · intro hv
      have ⟨_, _, hv⟩ := Gate.value_judge_iff.mp hv
      exact not_value_isAvailable_of_empty (hg ▸ hk) hv

-- A key signs unless it is empty, which it can tell beforehand, and accepts what it has signed
-- under the algorithm that it was signed with, but under no other. An empty key is of no use at
-- all, and is not to be had from variables, so the settings that are read from them always give
-- tokens.
theorem fails_closed :
    (∀ (k : Key) a message, ((∃ g, k.sign a message = .ok g) ↔ ¬k.Empty) ∧
      (¬k.Empty ↔ k.CanSign a) ∧ (k.CanSign a ↔ k.CanVerify a) ∧
      ∀ g, k.sign a message = .ok g → ∀ b, k.Accepts b message g ↔ b = a) ∧
    (∀ k : Key, k.Empty ↔ k.Shut) ∧
    ∀ lookup s, (Settings.lookup lookup).value = .ok s →
      ¬s.key.Empty ∧ ∀ principal now, ∃ token, (s.issue principal now).value = .ok token := by
  refine ⟨fun k a message => ⟨?_, .rfl, .rfl, ?_⟩, fun k => ⟨shut_of_empty, ?_⟩, ?_⟩
  · simp only [sign_eq_ok_iff, Accepts.def, exists_and_left, exists_eq, and_true]
  · intro g hg b
    have ha := sign_eq_ok_iff.mp hg
    exact ⟨fun hb => hb.algorithm_eq ha, fun hb => hb ▸ ha⟩
  · intro hs
    by_contra hk
    exact nomatch (hs.sign .hs256 []).symm.trans (if_neg hk)
  · intro lookup s hs
    have hk := Settings.not_empty_of_lookup hs
    exact ⟨hk, fun _ _ => ⟨_, Settings.value_issue_eq_ok_iff.mpr ⟨hk, rfl⟩⟩⟩

-- Anyone can compute what an empty key would sign with, but nobody gets in with it.
theorem fails_closed_of_forged_token :
    let k : Key := ⟨[]⟩
    let t := (Settings.claims { key := k } "mallory" { seconds := 1000 }).sealed k
    let v : Validator := { key := k, policy := .strict, approved := [.hs512] }
    let now : Instant := { seconds := 1001 }
    let lookup (name : String) := if name = Variable.secretKey then some "k" else none
    (k.Empty ∧ t.signature = k.mac .hs256 (Utf8.encode t.message.toList)) ∧
    (∃ r, (v.check t now).value = .error r ∧ r.IsIntegrityFailure) ∧ ¬(t.isValid k now).value ∧
    ∃ s, (Settings.lookup lookup).value = .ok s ∧
      ∃ token, (s.issue "mallory" now).value = .ok token := by
  intro k t v now lookup
  have he : k.Empty := rfl
  have hg : t.signature = k.mac .hs256 (Utf8.encode t.message.toList) := Claims.signature_signed ..
  have ⟨s, hv⟩ : ∃ s, (Settings.lookup lookup).value = .ok s := ⟨_, rfl⟩
  have ⟨_, hs, hl⟩ := fails_closed
  have hs := (hs k).mp he
  exact ⟨⟨he, hg⟩, hs.check v t now rfl, hs.isValid t now, s, hv, (hl _ s hv).2 "mallory" now⟩

end Key
end TokenLifecycle
