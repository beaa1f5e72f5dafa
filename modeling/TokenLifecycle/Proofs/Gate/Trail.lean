import TokenLifecycle.Proofs.Gate.Availability
import TokenLifecycle.Proofs.Token.Trail

namespace TokenLifecycle

variable {v : Validator} {token : String} {extension : Span} {now : Instant}

namespace Event

-- The line that the event leaves in the log has the level and the message.
def Says (l : Level) (message : String) (e : Event) : Prop :=
  e.level = l ∧ e.message = message

instance (l : Level) (message : String) (e : Event) : Decidable (e.Says l message) :=
  inferInstanceAs (Decidable (_ ∧ _))

-- There is exactly one such event if the condition holds, and otherwise there is none.
structure Tells (es : List Event) (q : Event → Prop) [DecidablePred q] (p : Prop) : Prop where
  once   : p → es.countP (q ·) = 1
  absent : ¬p → es.countP (q ·) = 0

variable {es : List Event} {q : Event → Prop} [DecidablePred q] {p : Prop}

theorem tells_iff [Decidable p] : Tells es q p ↔ es.countP (q ·) = if p then 1 else 0 where
  mp h := by
    split
    case isTrue hp  => exact h.once hp
    case isFalse hp => exact h.absent hp
  mpr h := ⟨fun hp => h.trans <| if_pos hp, fun hp => h.trans <| if_neg hp⟩

end Event

namespace Gate

variable {δ : Type}

-- The line is one of those that say how an attempt to sign in ended.
def EndsSignIn (e : Event) : Prop :=
  e.Says .info "authenticated" ∨ e.Says .info "authentication rejected" ∨
    e.Says .warn "authentication could not be completed" ∨ e.Says .error "unable to sign token"

instance (e : Event) : Decidable (EndsSignIn e) :=
  inferInstanceAs (Decidable (_ ∨ _))

-- The log tells how an attempt to sign in ended, once.
structure TellsSignIn (x : Logged (Except GateError String)) : Prop where
  granted    : Event.Tells x.events (·.Says .info "authenticated") (∃ token, x.value = .ok token)
  refused    : Event.Tells x.events (·.Says .info "authentication rejected")
                 (∃ cause, x.value = .error (.directory <| .refused cause))
  incomplete : Event.Tells x.events (·.Says .warn "authentication could not be completed")
                 (∃ cause, x.value = .error (.directory <| .unavailable cause))
  unsigned   : Event.Tells x.events (·.Says .error "unable to sign token")
                 (∃ cause, x.value = .error (.token <| .signing cause))
  single     : x.events.countP (EndsSignIn ·) = 1

-- How an attempt to sign in ends, together with what is reported on the way.
inductive SignIn (identity : String) : Logged (Except GateError String) → Prop
  | granted (token : String) : SignIn identity ⟨.ok token, [.issued identity, .signedIn]⟩
  | refused (cause : Refusal) :
    SignIn identity ⟨.error <| .directory <| .refused cause, [.signInRejected]⟩
  | incomplete (cause : Outage) :
    SignIn identity ⟨.error <| .directory <| .unavailable cause, [.signInIncomplete]⟩
  | unsigned (cause : SigningError) :
    SignIn identity ⟨.error <| .token <| .signing cause, [.signingFailed cause]⟩

theorem SignIn.tells {identity : String} {x : Logged (Except GateError String)}
    (h : SignIn identity x) : TellsSignIn x := by
  classical
  cases h
  all_goals constructor
  all_goals simp only [Event.tells_iff]
  all_goals simp [EndsSignIn, Event.Says, Event.level, Event.message]
  case unsigned.unsigned cause => exact ⟨cause⟩

theorem signIn_signInAt (g : Gate Roster) (target identity secret : String) (now : Instant) :
    SignIn identity (g.signInAt target identity secret now) := by
  have ha : Directory.attempt g.directory target identity secret =
      pure (g.directory.judge identity secret) := rfl
  rw [signInAt, ha]
  cases g.directory.judge identity secret
  case error e =>
    cases e
    case refused cause     => exact .refused cause
    case unavailable cause => exact .incomplete cause
  case ok =>
    by_cases hk : g.settings.key.Empty
    case pos =>
      simp only [Settings.issue, Claims.seal_of_empty hk]
      exact .unsigned .emptyKey
    case neg =>
      simp only [Settings.issue, Claims.seal_eq_pure hk]
      exact .granted _

-- The event says why a token is not renewed.
inductive NamesRefusal : Event → InvalidToken → Prop
  | malformed (cause : Malformed) : NamesRefusal (.renewalOfUnreadable cause) (.malformed cause)
  | notAvailable (cause : Rejection) :
    NamesRefusal (.renewalOfRejected cause) (.notAvailable cause)
  | refreshWindowExpired (deadline now : Instant) :
    NamesRefusal (.refreshWindowExpired deadline now) .refreshWindowExpired

theorem NamesRefusal.level_eq {e : Event} {cause : InvalidToken} (h : NamesRefusal e cause) :
    e.level = .debug := by
  cases h
  all_goals rfl

-- The log tells whether a renewal came about, until when the new token is good, and otherwise what
-- stood in the way.
structure TellsRenewal (x : Logged (Except GateError String)) : Prop where
  renewed  : Event.Tells x.events (·.Says .trace "token renewed") (∃ new, x.value = .ok new)
  horizons : ∀ new, x.value = .ok new → ∃ t, AccessToken.read new = .ok t ∧
               .renewed t.claims.expiry t.claims.refreshDeadline ∈ x.events
  single   : Event.Tells x.events (·.level = .debug) (∃ e, x.value = .error e)
  refused  : ∀ e, x.value = .error e → ∃ cause, e = .token (.invalid cause) ∧
               ∃ event ∈ x.events, event.level = .debug ∧ NamesRefusal event cause
  mismatch : Event.Tells x.events (·.Says .trace "signature verification failed")
               (x.value = .error (.token <| .invalid <| .notAvailable .signatureMismatch))

-- How a renewal ends, together with what is reported on the way.
inductive Renewal : Logged (Except GateError String) → Prop
  | renewed {new : String} {t : AccessToken} : (AccessToken.read new = .ok t) →
    Renewal ⟨.ok new, [.renewed t.claims.expiry t.claims.refreshDeadline]⟩
  | refused {e : Event} {cause : InvalidToken} : (NamesRefusal e cause) →
    Renewal ⟨.error <| .token <| .invalid cause, cause.trail ++ [e]⟩

theorem renew_eq (g : Gate δ) (token : String) (extension : Span) (now : Instant) :
    g.renew token extension now =
      ⟨(g.settings.renew token extension now).value.mapError .token,
        (g.settings.renew token extension now).events⟩ :=
  Logged.ext rfl <| List.append_nil _

theorem renewal_renew (g : Gate δ) (token : String) (extension : Span) (now : Instant) :
    Renewal (g.renew token extension now) := by
  have ⟨_, h⟩ := g.settings.exists_ends token extension now
  rw [renew_eq]
  cases h
  case unreadable ht       =>
    rw [Settings.renew_of_unreadable ht]
    exact .refused <| .malformed _
  case rejected ht hc      =>
    rw [Settings.renew_of_rejected ht hc]
    exact .refused <| .notAvailable _
  case elapsed ht hc he    =>
    rw [Settings.renew_of_elapsed ht hc he]
    exact .refused <| .refreshWindowExpired ..
  case renewed ht hc he    =>
    rw [Settings.renew_of_timely ht hc he]
    exact .renewed (Claims.read_sealed ..)

-- If there is no fresh token, it is for the old one that there is none.
theorem isInvalidToken_of_renew {g : Gate δ} {e : GateError}
    (h : (g.renew token extension now).value = .error e) : e.IsInvalidToken := by
  have hr := g.renewal_renew token extension now
  generalize g.renew token extension now = x at h hr
  cases hr
  case renewed => cases h
  case refused =>
    cases h
    rfl

theorem value_renew_eq_error_iff {g : Gate δ} {e : TokenError} :
    (g.renew token extension now).value = .error (.token e) ↔
      (g.settings.renew token extension now).value = .error e := by
  rw [value_renew]
  cases (g.settings.renew token extension now).value
  case error e' => simp [Except.mapError]
  case ok new   => simp [Except.mapError]

theorem Renewal.tells {x : Logged (Except GateError String)} (h : Renewal x) : TellsRenewal x := by
  classical
  cases h
  case renewed new t ht =>
    constructor
    case horizons =>
      intro _ hn
      cases hn
      exact ⟨t, ht, .head _⟩
    all_goals simp [Event.tells_iff, Event.Says, Event.level, Event.message]
  case refused e cause hn =>
    constructor
    case horizons => nofun
    case refused  =>
      intro _ he
      cases he
      exact ⟨cause, rfl, e, by simp, hn.level_eq, hn⟩
    all_goals simp only [Event.tells_iff, List.countP_append, InvalidToken.countP_trail]
    all_goals cases hn
    all_goals simp [Event.Says, Event.level, Event.message]

theorem value_renew_eq_malformed_iff {g : Gate δ} {e : Malformed} :
    (g.renew token extension now).value = .error (.token <| .invalid <| .malformed e) ↔
      AccessToken.read token = .error e :=
  value_renew_eq_error_iff.trans Settings.value_renew_eq_malformed_iff

theorem value_renew_eq_notAvailable_iff {g : Gate δ} {r : Rejection} :
    (g.renew token extension now).value = .error (.token <| .invalid <| .notAvailable r) ↔
      ∃ t, AccessToken.read token = .ok t ∧ (g.settings.renewer.check t now).value = .error r :=
  value_renew_eq_error_iff.trans Settings.value_renew_eq_notAvailable_iff

-- The log tells why a token is not accepted, and says nothing of one that is.
structure TellsJudgement (v : Validator) (token : String) (now : Instant) (x : Logged Bool) :
    Prop where
  silent     : x.value ↔ x.events = []
  rejected   : Event.Tells x.events (·.Says .debug "token rejected") (¬x.value)
  single     : Event.Tells x.events (·.level = .debug) (¬x.value)
  unreadable : ∀ e, .unreadable e ∈ x.events ↔ AccessToken.read token = .error e
  reason     : ∀ p r, .rejected p r ∈ x.events ↔ p = v.policy ∧
                 ∃ t, AccessToken.read token = .ok t ∧ (v.check t now).value = .error r
  mismatch   : Event.Tells x.events (·.Says .trace "signature verification failed")
                 (∃ t, AccessToken.read token = .ok t ∧
                   (v.check t now).value = .error .signatureMismatch)

-- How a text is judged, together with what is reported on the way.
inductive Judgement (v : Validator) (token : String) (now : Instant) : Logged Bool → Prop
  | passed {t : AccessToken} {st : Standing} : (AccessToken.read token = .ok t) →
    ((v.check t now).value = .ok st) → Judgement v token now ⟨true, []⟩
  | unreadable {e : Malformed} : (AccessToken.read token = .error e) →
    Judgement v token now ⟨false, [.unreadable e]⟩
  | rejected {t : AccessToken} {r : Rejection} : (AccessToken.read token = .ok t) →
    ((v.check t now).value = .error r) →
    Judgement v token now ⟨false, r.trail ++ [.rejected v.policy r]⟩

theorem judgement_judge (v : Validator) (token : String) (now : Instant) :
    Judgement v token now (judge token (v.accepts · now)) := by
  unfold judge
  split
  case h_1 ht   => exact .unreadable ht
  case h_2 t ht =>
    cases hc : (v.check t now).value
    case ok st   => simpa only [Validator.accepts_of_ok hc] using .passed ht hc
    case error r => simpa only [Validator.accepts_of_error hc] using .rejected ht hc

theorem Judgement.tells {x : Logged Bool} (h : Judgement v token now x) :
    TellsJudgement v token now x := by
  classical
  cases h
  case passed ht hc     =>
    constructor
    all_goals simp [Event.tells_iff, ht, hc]
  case unreadable ht    =>
    constructor
    all_goals simp [Event.tells_iff, Event.Says, Event.level, Event.message, ht, eq_comm]
  case rejected r ht hc =>
    constructor
    case unreadable => simp [Rejection.mem_trail_iff, ht]
    case reason     => simp [Rejection.mem_trail_iff, ht, hc, @eq_comm _ r]
    case silent     => simp
    all_goals simp only [Event.tells_iff, List.countP_append, Rejection.countP_trail]
    all_goals simp [Event.Says, Event.level, Event.message, ht, hc]

-- Whatever is asked of the gate, the log tells how it ends.
theorem log_tells_outcome (g : Gate Roster) (now : Instant) :
    (∀ target identity secret, TellsSignIn (g.signInAt target identity secret now)) ∧
    (∀ identity secret, TellsSignIn (g.signIn identity secret now)) ∧
    (∀ token extension, TellsRenewal (g.renew token extension now) ∧
      (∀ e, (g.renew token extension now).value = .error (.token <| .invalid <| .malformed e) ↔
        AccessToken.read token = .error e) ∧
      ∀ r, (g.renew token extension now).value = .error (.token <| .invalid <| .notAvailable r) ↔
        ∃ t, AccessToken.read token = .ok t ∧ (g.settings.renewer.check t now).value = .error r) ∧
    (∀ token, TellsJudgement { key := g.settings.key, policy := .strict } token now
      (g.isValid token now)) ∧
    ∀ token, TellsJudgement { key := g.settings.key, policy := .renewable } token now
      (g.isAvailable token now) := by
  refine ⟨?_, ?_, ?_, ?_, ?_⟩
  · exact fun target identity secret => (g.signIn_signInAt target identity secret now).tells
  · exact fun identity secret => (g.signIn_signInAt g.target identity secret now).tells
  · exact fun token extension => ⟨(g.renewal_renew token extension now).tells,
      fun _ => value_renew_eq_malformed_iff, fun _ => value_renew_eq_notAvailable_iff⟩
  · exact fun token => (judgement_judge _ token now).tells
  · exact fun token => (judgement_judge _ token now).tells

-- Nobody believes the header of a token that is signed with another algorithm.
theorem value_check_of_other_algorithm (s : Settings) (principal : String) (t₀ now : Instant)
    (hv : v.key = s.key) :
    let t := (s.claims principal t₀).signed (.ofAlgorithm .hs256) .hs512 s.key
    (v.check t now).value = .error .signatureMismatch := by
  intro t
  have hs : t.HasStanding (s.standing t₀) := {
    algorithm       := rfl
    kind            := nofun
    issuedAt        := rfl
    expiry          := rfl
    principal       := nofun
    refreshDeadline := rfl
    availability    := congrArg some <| s.readBack_availability t₀ }
  have ha : (s.standing t₀).algorithm ∈ v.algorithms := List.mem_cons_self
  have hn : ¬t.SignedBy v.key (s.standing t₀).algorithm := by
    rw [hv, Claims.signedBy_signed_iff]
    exact fun h => nomatch h.2
  rw [Validator.value_check_of_standing hs, if_neg (not_not.mpr ha), if_pos hn]

-- Such a token is turned down whatever it is presented for, and each time the log says once that
-- the signature is wrong.
theorem log_tells_outcome_of_forged_token :
    let s : Settings := { key := ⟨[0x6b]⟩ }
    let g : Gate Roster := { directory := .empty, target := "memory", settings := s }
    let token := ((s.claims "alice" .epoch).signed (.ofAlgorithm .hs256) .hs512 s.key).encoded
    let wrong := Event.Says .trace "signature verification failed"
    (g.signIn "alice" "wonderland" .epoch).events.countP (EndsSignIn ·) = 1 ∧
    (g.isValid token .epoch).value = false ∧
    .rejected .strict .signatureMismatch ∈ (g.isValid token .epoch).events ∧
    (g.isValid token .epoch).events.countP (wrong ·) = 1 ∧
    (g.renew token .zero .epoch).value =
      .error (.token <| .invalid <| .notAvailable .signatureMismatch) ∧
    (g.renew token .zero .epoch).events.countP (wrong ·) = 1 := by
  intro s g token wrong
  have hr : AccessToken.read token = .ok _ := Claims.read_signed ..
  have hc (v : Validator) (hv : v.key = s.key) :=
    value_check_of_other_algorithm s "alice" .epoch .epoch hv
  have ⟨_, hi, hn, hv, _⟩ := g.log_tells_outcome .epoch
  have hv := hv token
  have ⟨hn, _, hu⟩ := hn token .zero
  have hu := (hu .signatureMismatch).mpr ⟨_, hr, hc g.settings.renewer rfl⟩
  have hm := hv.mismatch.once ⟨_, hr, hc _ rfl⟩
  have hj := (hv.reason .strict .signatureMismatch).mpr ⟨rfl, _, hr, hc _ rfl⟩
  have hf : (g.isValid token .epoch).value = false := by
    refine Bool.eq_false_iff.mpr fun ht => ?_
    rw [hv.silent.mp ht] at hj
    exact nomatch hj
  exact ⟨(hi "alice" "wonderland").single, hf, hj, hm, hu, hn.mismatch.once hu⟩

end Gate
end TokenLifecycle
