import TokenLifecycle.Directory.Roster
import TokenLifecycle.Gate
import TokenLifecycle.Proofs.Token.Issuance

namespace TokenLifecycle

variable {identity secret : String}

-- A directory in memory accepts whoever presents the secret that it has for the identity.
theorem Roster.judge_eq_ok_iff {r : Roster} :
    r.judge identity secret = .ok () ↔ r.online ∧ r.secret? identity = some secret := by
  simp only [judge]
  split
  case isFalse ho => simp [ho]
  case isTrue ho  => split <;> simp_all

namespace Gate

variable {δ : Type} [Directory δ] {g : Gate δ} {target token : String} {now : Instant}

-- The directory is asked first, and then the key.
theorem value_signInAt :
    (g.signInAt target identity secret now).value =
      match (Directory.attempt g.directory target identity secret).value with
      | .error e => .error <| .directory e
      | .ok _    => (g.settings.issue identity now).value.mapError (.token <| .signing ·) := by
  simp only [signInAt, Logged.value_bind]
  cases (Directory.attempt g.directory target identity secret).value
  case error e => rfl
  case ok      =>
    cases hi : (g.settings.issue identity now).value
    case error => simp [hi, Except.mapError]
    case ok    => simp [hi, Except.mapError]

-- Nobody signs in whom the directory does not accept, and everybody else gets a fresh token unless
-- there is no key to sign it with.
theorem value_signInAt_eq_ok_iff :
    (g.signInAt target identity secret now).value = .ok token ↔
      (Directory.attempt g.directory target identity secret).value = .ok () ∧
        (g.settings.issue identity now).value = .ok token := by
  rw [value_signInAt]
  cases (Directory.attempt g.directory target identity secret).value
  case error => simp
  case ok    => cases (g.settings.issue identity now).value <;> simp [Except.mapError]

-- The gate is closed for the reason that the directory gives.
theorem value_signInAt_eq_error_directory_iff {e : DirectoryError} :
    (g.signInAt target identity secret now).value = .error (.directory e) ↔
      (Directory.attempt g.directory target identity secret).value = .error e := by
  rw [value_signInAt]
  cases (Directory.attempt g.directory target identity secret).value
  case error => simp
  case ok    => cases (g.settings.issue identity now).value <;> simp [Except.mapError]

-- It is the key that is to blame only for those whom the directory accepts.
theorem value_signInAt_eq_error_token_iff {e : TokenError} :
    (g.signInAt target identity secret now).value = .error (.token e) ↔
      (Directory.attempt g.directory target identity secret).value = .ok () ∧
        g.settings.key.Empty ∧ e = .signing .emptyKey := by
  rw [← g.settings.value_issue_eq_error_iff identity now, value_signInAt]
  cases (Directory.attempt g.directory target identity secret).value
  case error => simp
  case ok    => cases (g.settings.issue identity now).value <;> simp [Except.mapError, eq_comm]

-- How the gate answers to what the directory says of a user.
structure Follows (g : Gate δ) (outcome : Except DirectoryError Unit)
    (answer : Except GateError String) : Prop where
  directory : ∀ e, answer = .error (.directory e) ↔ outcome = .error e
  signing   : (∃ e, answer = .error (.token (.signing e))) ↔ outcome = .ok () ∧ g.settings.key.Empty
  granted   : (∃ token, answer = .ok token) ↔ outcome = .ok () ∧ ¬g.settings.key.Empty

theorem follows_signInAt (g : Gate δ) (target identity secret : String) (now : Instant) :
    g.Follows (Directory.attempt g.directory target identity secret).value
      (g.signInAt target identity secret now).value where
  directory _ := value_signInAt_eq_error_directory_iff
  signing     := by
    constructor
    case mp =>
      intro ⟨_, ha⟩
      have ⟨hd, hk, _⟩ := value_signInAt_eq_error_token_iff.mp ha
      exact ⟨hd, hk⟩
    case mpr =>
      intro ⟨hd, hk⟩
      exact ⟨.emptyKey, value_signInAt_eq_error_token_iff.mpr ⟨hd, hk, rfl⟩⟩
  granted     := by
    simp only [value_signInAt_eq_ok_iff, Settings.value_issue_eq_ok_iff]
    constructor
    case mp  => exact fun ⟨_, hd, hk, _⟩ => ⟨hd, hk⟩
    case mpr => exact fun ⟨hd, hk⟩ => ⟨_, hd, hk, rfl⟩

-- What the kind of an error says about an attempt to sign in: the user, the directory or the key is
-- to blame for it. No token is presented, so none can be invalid.
structure Sorts (g : Gate δ) (outcome : Except DirectoryError Unit) (e : GateError) : Prop where
  user      : e.IsAuthenticationFailure ↔ ∃ cause, outcome = .error (.refused cause)
  directory : e.IsBackendUnavailable ↔ ∃ cause, outcome = .error (.unavailable cause)
  key       : e.kind = .internal ↔ outcome = .ok () ∧ g.settings.key.Empty
  token     : ¬e.IsInvalidToken

theorem sorts_of_signInAt {e : GateError}
    (h : (g.signInAt target identity secret now).value = .error e) :
    g.Sorts (Directory.attempt g.directory target identity secret).value e := by
  cases e
  case directory e =>
    have hd := value_signInAt_eq_error_directory_iff.mp h
    rw [hd]
    cases e
    all_goals constructor
    all_goals simp [GateError.IsAuthenticationFailure, GateError.IsBackendUnavailable,
      GateError.IsInvalidToken, GateError.kind, DirectoryError.kind,
      DirectoryError.IsAuthenticationFailure]
  case token e =>
    have ⟨hd, hk, he⟩ := value_signInAt_eq_error_token_iff.mp h
    rw [hd, he]
    constructor
    all_goals simp [GateError.IsAuthenticationFailure, GateError.IsBackendUnavailable,
      GateError.IsInvalidToken, GateError.kind, TokenError.kind, hk]

end Gate
end TokenLifecycle
