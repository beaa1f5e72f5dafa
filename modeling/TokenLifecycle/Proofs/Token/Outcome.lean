import TokenLifecycle.Proofs.Token.Renewal
import TokenLifecycle.Proofs.Token.Rules

namespace TokenLifecycle

variable {s : Settings} {token : String} {extension : Span} {now : Instant}
variable {t : AccessToken} {st : Standing}

theorem Availability.deadline?_eq_some_iff {av : Availability} {ceiling : Instant} :
    av.deadline? = some ceiling ↔ av = .bounded ceiling := by
  cases av <;> simp [deadline?]

namespace Settings

-- How a renewal ends, by what is found out about the token.

theorem value_renew_of_unreadable {e : Malformed} (ht : AccessToken.read token = .error e) :
    (s.renew token extension now).value = .error (.invalid <| .malformed e) := by
  simp only [renew, ht, Logged.value_reporting]

theorem value_renew_of_rejected {r : Rejection} (ht : AccessToken.read token = .ok t)
    (hc : (s.renewer.check t now).value = .error r) :
    (s.renew token extension now).value = .error (.invalid <| .notAvailable r) := by
  have hc : (Validator.check ⟨s.key, .renewable, s.leeway, []⟩ t now).value = .error r := hc
  simp only [renew, ht, Logged.value_bind, hc, Logged.value_reporting]

theorem value_renew_of_elapsed (ht : AccessToken.read token = .ok t)
    (hc : (s.renewer.check t now).value = .ok st) (he : s.leeway.Elapsed st.refreshDeadline now) :
    (s.renew token extension now).value = .error (.invalid .refreshWindowExpired) := by
  have hc : (Validator.check ⟨s.key, .renewable, s.leeway, []⟩ t now).value = .ok st := hc
  simp only [renew, ht, Logged.value_bind, hc, if_pos he, Logged.value_reporting]

-- How a renewal ends, and why. There is no other end: a token that passes says all that is needed
-- for a new one, and the key that it was signed with can sign that one as well.
inductive Ends (s : Settings) (token : String) (extension : Span) (now : Instant) :
    Except TokenError String → Prop
  | unreadable {e : Malformed} : (AccessToken.read token = .error e) →
    Ends s token extension now (.error <| .invalid <| .malformed e)
  | rejected {t : AccessToken} {r : Rejection} : (AccessToken.read token = .ok t) →
    ((s.renewer.check t now).value = .error r) →
    Ends s token extension now (.error <| .invalid <| .notAvailable r)
  | elapsed {t : AccessToken} {st : Standing} : (AccessToken.read token = .ok t) →
    ((s.renewer.check t now).value = .ok st) → (s.leeway.Elapsed st.refreshDeadline now) →
    Ends s token extension now (.error <| .invalid .refreshWindowExpired)
  | renewed {t : AccessToken} {st : Standing} : (AccessToken.read token = .ok t) →
    ((s.renewer.check t now).value = .ok st) → (¬s.leeway.Elapsed st.refreshDeadline now) →
    Ends s token extension now
      (.ok ((t.claims.renewed st.availability s extension now).sealed s.key).encoded)

theorem Ends.value_renew_eq {outcome : Except TokenError String}
    (h : s.Ends token extension now outcome) :
    (s.renew token extension now).value = outcome := by
  cases h
  case unreadable ht       => exact value_renew_of_unreadable ht
  case rejected t r ht hc  => exact value_renew_of_rejected ht hc
  case elapsed t ht hc he  => exact value_renew_of_elapsed ht hc he
  case renewed t st ht hc he => exact value_renew_eq_ok_iff.mpr ⟨t, st, ht, hc, he, rfl⟩

theorem exists_ends (s : Settings) (token : String) (extension : Span) (now : Instant) :
    ∃ outcome, s.Ends token extension now outcome := by
  cases ht : AccessToken.read token
  case error e => exact ⟨_, .unreadable ht⟩
  case ok t    =>
    cases hc : (s.renewer.check t now).value
    case error r => exact ⟨_, .rejected ht hc⟩
    case ok st   =>
      by_cases he : s.leeway.Elapsed st.refreshDeadline now
      case pos => exact ⟨_, .elapsed ht hc he⟩
      case neg => exact ⟨_, .renewed ht hc he⟩

theorem value_renew_eq_iff {outcome : Except TokenError String} :
    (s.renew token extension now).value = outcome ↔ s.Ends token extension now outcome where
  mp h := by
    have ⟨_, he⟩ := s.exists_ends token extension now
    exact h ▸ he.value_renew_eq.symm ▸ he
  mpr h := h.value_renew_eq

theorem value_renew_eq_malformed_iff {e : Malformed} :
    (s.renew token extension now).value = .error (.invalid <| .malformed e) ↔
      AccessToken.read token = .error e := by
  rw [value_renew_eq_iff]
  constructor
  case mp  => exact fun | .unreadable ht => ht
  case mpr => exact .unreadable

theorem value_renew_eq_notAvailable_iff {r : Rejection} :
    (s.renew token extension now).value = .error (.invalid <| .notAvailable r) ↔
      ∃ t, AccessToken.read token = .ok t ∧ (s.renewer.check t now).value = .error r := by
  rw [value_renew_eq_iff]
  constructor
  case mp  => exact fun | .rejected ht hc => ⟨_, ht, hc⟩
  case mpr => exact fun ⟨_, ht, hc⟩ => .rejected ht hc

theorem value_renew_eq_refreshWindowExpired_iff :
    (s.renew token extension now).value = .error (.invalid .refreshWindowExpired) ↔
      ∃ t, AccessToken.read token = .ok t ∧ s.renewer.Passes t now ∧
        ∃ deadline ∈ t.claims.refreshDeadline,
          deadline.seconds + s.leeway.tolerance.seconds < now.seconds := by
  rw [value_renew_eq_iff]
  constructor
  case mp  =>
    intro h
    cases h
    case elapsed t st ht hc he =>
      have hs := (Validator.value_check_eq_ok_iff.mp hc).1
      exact ⟨t, ht, ⟨st, hc⟩, _, hs.refreshDeadline, Leeway.elapsed_iff.mp he⟩
  case mpr =>
    intro ⟨t, ht, ⟨st, hc⟩, deadline, hd, he⟩
    have hs := (Validator.value_check_eq_ok_iff.mp hc).1
    obtain rfl := Option.some.inj <| hs.refreshDeadline.symm.trans hd
    exact .elapsed ht hc <| Leeway.elapsed_iff.mpr he

theorem value_renew_ne_signing (e : SigningError) :
    (s.renew token extension now).value ≠ .error (.signing e) :=
  fun h => nomatch value_renew_eq_iff.mp h

-- All that a token has to be like to be renewed now. When it expires plays no part, and the sums
-- are those of whole numbers, of which there is no largest.
structure MayRenew (s : Settings) (t : AccessToken) (now : Instant) : Prop where
  complete  : t.HasRequired
  algorithm : t.header.algorithm = some .hs256
  usable    : ¬s.key.Empty
  signature : t.signature = s.key.mac .hs256 (Utf8.encode t.message.toList)
  begun     : ∀ start ∈ t.claims.issuedAt,
                start.seconds ≤ now.seconds + s.leeway.tolerance.seconds
  timely    : ∀ deadline ∈ t.claims.refreshDeadline,
                now.seconds ≤ deadline.seconds + s.leeway.tolerance.seconds
  available : ∀ av ∈ t.claims.availability, ∀ ceiling ∈ av.deadline?,
                now.seconds ≤ ceiling.seconds + s.leeway.tolerance.seconds

theorem Grants.mayRenew (h : s.Grants t st now) : s.MayRenew t now where
  complete                   := AccessToken.hasRequired_iff.mpr ⟨st, h.standing⟩
  algorithm                  := h.algorithm ▸ h.standing.algorithm
  usable                     := h.signed.usable
  signature                  := h.signed.eq
  begun _ hm                 := by
    obtain rfl := Option.some.inj <| h.standing.issuedAt.symm.trans hm
    exact Nat.not_lt.mp <| mt Leeway.premature_iff.mpr h.begun
  timely _ hm                := by
    obtain rfl := Option.some.inj <| h.standing.refreshDeadline.symm.trans hm
    exact Nat.not_lt.mp <| mt Leeway.elapsed_iff.mpr h.timely
  available _ hm ceiling hc := by
    obtain rfl := Option.some.inj <| h.standing.availability.symm.trans hm
    have he := h.available ceiling <| Availability.deadline?_eq_some_iff.mp hc
    exact Nat.not_lt.mp <| mt Leeway.elapsed_iff.mpr he

theorem MayRenew.grants (h : s.MayRenew t now) (hs : t.HasStanding st) : s.Grants t st now where
  standing             := hs
  algorithm            := Option.some.inj <| hs.algorithm.symm.trans h.algorithm
  signed               := ⟨h.usable, h.signature⟩
  begun                := mt Leeway.premature_iff.mp <| Nat.not_lt.mpr <| h.begun _ hs.issuedAt
  available ceiling ha :=
    have hc := Availability.deadline?_eq_some_iff.mpr ha
    mt Leeway.elapsed_iff.mp <| Nat.not_lt.mpr <| h.available _ hs.availability ceiling hc
  timely               :=
    mt Leeway.elapsed_iff.mp <| Nat.not_lt.mpr <| h.timely _ hs.refreshDeadline

theorem exists_value_renew_eq_ok_iff :
    (∃ new, (s.renew token extension now).value = .ok new) ↔
      ∃ t, AccessToken.read token = .ok t ∧ s.MayRenew t now := by
  simp only [value_renew_eq_ok_iff_grants]
  constructor
  case mp  => exact fun ⟨_, t, st, ht, hg, _⟩ => ⟨t, ht, hg.mayRenew⟩
  case mpr =>
    intro ⟨t, ht, hm⟩
    have ⟨st, hs⟩ := AccessToken.hasRequired_iff.mp hm.complete
    exact ⟨_, t, st, ht, hm.grants hs, rfl⟩

-- A renewal fails because the text is no token, because the token does not pass, or because it
-- passes only as it has not expired yet. If none of that is the case there is a new token, whose
-- signing never fails, and none of the claims that it is made from is missing.
theorem renew_outcome (s : Settings) (token : String) (extension : Span) (now : Instant) :
    let outcome := (s.renew token extension now).value
    (∀ e, outcome = .error (.invalid <| .malformed e) ↔ AccessToken.read token = .error e) ∧
    (∀ r, outcome = .error (.invalid <| .notAvailable r) ↔
      ∃ t, AccessToken.read token = .ok t ∧ (s.renewer.check t now).value = .error r) ∧
    (outcome = .error (.invalid .refreshWindowExpired) ↔
      ∃ t, AccessToken.read token = .ok t ∧ s.renewer.Passes t now ∧
        ∃ deadline ∈ t.claims.refreshDeadline,
          deadline.seconds + s.leeway.tolerance.seconds < now.seconds) ∧
    ((∃ new, outcome = .ok new) ↔
      ∃ t, AccessToken.read token = .ok t ∧ s.MayRenew t now) ∧
    (∀ e, outcome ≠ .error (.signing e)) ∧
    ∀ t, s.renewer.Passes t now → t.Has .refreshDeadline ∧ t.Has .availability := by
  refine ⟨fun _ => value_renew_eq_malformed_iff, fun _ => value_renew_eq_notAvailable_iff,
    value_renew_eq_refreshWindowExpired_iff, exists_value_renew_eq_ok_iff, value_renew_ne_signing,
    fun t hp => ?_⟩
  have ⟨st, ht⟩ := hp.exists_trusts
  have hr := AccessToken.hasRequired_iff.mpr ⟨st, ht.standing⟩
  exact ⟨hr _ <| by decide, hr _ <| by decide⟩

-- A token whose refresh window is shorter than its life is renewed up to the end of the leeway, and
-- after that is no longer renewed although it may still be used.
theorem renew_outcome_of_short_window :
    let s : Settings := {
      key           := ⟨[0x6b]⟩
      expiration    := { seconds := 600 }
      refreshWindow := { seconds := 60 } }
    let t := (s.claims "alice" { seconds := 1000 }).sealed s.key
    let renewal (now : Instant) := (s.renew t.encoded { seconds := 300 } now).value
    (AccessToken.read t.encoded = .ok t ∧ s.renewer.Passes t { seconds := 1071 }) ∧
    (∃ new, renewal { seconds := 1070 } = .ok new) ∧
    renewal { seconds := 1071 } = .error (.invalid .refreshWindowExpired) ∧
    (∀ e, renewal { seconds := 1071 } ≠ .error (.signing e)) ∧
    t.Has .refreshDeadline ∧ t.Has .availability := by
  intro s t renewal
  have hr : AccessToken.read t.encoded = .ok t := Claims.read_sealed ..
  have ht : s.renewer.Trusts t (s.standing { seconds := 1000 }) :=
    Validator.trusts_sealed (by decide) (s.hasStanding_issued _ _)
  have hp : s.renewer.Passes t { seconds := 1071 } :=
    ht.passes_iff.mpr <| (admits_iff_exchangeable rfl).mpr
      ⟨by decide, .inr <| by decide, .inl <| by decide⟩
  have hm : s.MayRenew t { seconds := 1070 } := {
    complete  := AccessToken.hasRequired_iff.mpr ⟨_, ht.standing⟩
    algorithm := rfl
    usable    := by decide
    signature := Claims.signature_signed ..
    begun     := by decide
    timely    := by decide
    available := by decide }
  have ⟨_, _, _, ho, _⟩ := s.renew_outcome t.encoded { seconds := 300 } { seconds := 1070 }
  have ⟨_, _, he, _, hn, hf⟩ := s.renew_outcome t.encoded { seconds := 300 } { seconds := 1071 }
  exact ⟨⟨hr, hp⟩, ho.mpr ⟨t, hr, hm⟩, he.mpr ⟨t, hr, hp, _, rfl, by decide⟩, hn, hf t hp⟩

end Settings
end TokenLifecycle
