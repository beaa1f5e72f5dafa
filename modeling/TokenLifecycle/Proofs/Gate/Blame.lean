import TokenLifecycle.Directory.Server
import TokenLifecycle.Proofs.Gate.SignIn

namespace TokenLifecycle

-- The event is about a token that was made, or that should have been.
def Event.ConcernsIssue : Event → Prop
  | .issued _        => True
  | .signingFailed _ => True
  | _                => False

namespace Server

variable {code target name : String} {r : Reply} {limit : Span}
variable {x : Logged (Except DirectoryError Unit)}

-- The code blames the credentials: it is of class 28, and says more than the class.
def Blames (code : String) : Prop :=
  ∃ c cs, code.toList = '2' :: '8' :: c :: cs

theorem isAuthorizationFailure_iff : IsAuthorizationFailure code ↔ Blames code := by
  rw [IsAuthorizationFailure, Blames, ← String.length_toList]
  constructor
  case mp =>
    intro ⟨⟨cs, hc⟩, hl⟩
    rw [← hc] at hl ⊢
    cases cs
    case nil       => exact absurd hl (by decide)
    case cons c cs => exact ⟨c, cs, rfl⟩
  case mpr =>
    intro ⟨c, cs, hc⟩
    rw [hc]
    exact ⟨⟨c :: cs, rfl⟩, by simp⟩

-- The name by which a server is asked for under a target. The first part of a longer name is left
-- out, but only once.
inductive Addresses : (target name : String) → Prop
  | long (name : String) : Addresses ("jdbc:" ++ name) name
  | short {name : String} : (∀ x, name ≠ "jdbc:" ++ x) → Addresses name name

theorem normalize_append (name : String) : normalize ("jdbc:" ++ name) = name := by
  simp [normalize]

theorem normalize_of_ne (h : ∀ x, name ≠ "jdbc:" ++ x) : normalize name = name := by
  unfold normalize
  split
  case h_1 cs hc => exact absurd (String.ext <| by simpa using hc) (h <| .ofList cs)
  case h_2       => rfl

theorem addresses_iff : Addresses target name ↔ normalize target = name := by
  constructor
  case mp =>
    intro h
    cases h
    case long    => exact normalize_append name
    case short h => exact normalize_of_ne h
  case mpr =>
    intro h
    by_cases hl : ∃ x, target = "jdbc:" ++ x
    case pos =>
      obtain ⟨x, rfl⟩ := hl
      rw [normalize_append] at h
      exact h ▸ .long x
    case neg =>
      have hl := not_exists.mp hl
      rw [normalize_of_ne hl] at h
      exact h ▸ .short hl

theorem attempt_of_addresses (h : Addresses target name) (d : Server) (identity secret : String) :
    Directory.attempt d target identity secret =
      (d.connect name identity secret).verdict d.limit := by
  rw [← addresses_iff.mp h]
  rfl

namespace Reply

-- What a reply comes to, together with what is reported of it.
inductive Means (limit : Span) : Reply → Logged (Except DirectoryError Unit) → Prop
  | closed : Means limit (.accepted none) ⟨.ok (), []⟩
  | unclosed (cause : String) :
    Means limit (.accepted (some cause)) ⟨.ok (), [.closingFailed cause]⟩
  | refused {code : String} (message : String) : (Blames code) →
    Means limit (.error (some code) message)
      ⟨.error <| .refused <| .byServer message, [.credentialsRejected code]⟩
  | serverError {code : Option String} (message : String) : (∀ c ∈ code, ¬Blames c) →
    Means limit (.error code message)
      ⟨.error <| .unavailable <| .serverError message,
        [.directoryUnavailable (Outage.serverError message).message]⟩
  | invalidTarget (cause : String) :
    Means limit (.invalidTarget cause) ⟨.error <| .unavailable <| .invalidTarget cause, []⟩
  | timedOut :
    Means limit .timedOut ⟨.error <| .unavailable .timedOut, [.directoryTimedOut limit]⟩
  | failed (message : String) :
    Means limit (.failed message)
      ⟨.error <| .unavailable <| .connection message, [.directoryUnavailable message]⟩

theorem means_verdict (r : Reply) (limit : Span) : r.Means limit (r.verdict limit) := by
  cases r
  case invalidTarget cause => exact .invalidTarget cause
  case timedOut            => exact .timedOut
  case failed message      => exact .failed message
  case accepted closing    =>
    cases closing
    case none       => exact .closed
    case some cause => exact .unclosed cause
  case error code message  =>
    cases code
    case none      => exact .serverError message nofun
    case some code =>
      rw [verdict]
      split
      case isTrue hc  => exact .refused message <| isAuthorizationFailure_iff.mp hc
      case isFalse hc =>
        refine .serverError message fun c hm => ?_
        exact Option.mem_some.mp hm ▸ mt isAuthorizationFailure_iff.mpr hc

-- Who is to blame for what an attempt to connect comes to: nobody, the user, or somebody else.
structure Judged (r : Reply) (outcome : Except DirectoryError Unit) : Prop where
  accepted    : outcome = .ok () ↔ ∃ closing, r = .accepted closing
  refused     : (∃ cause, outcome = .error (.refused cause)) ↔
                  ∃ code message, r = .error (some code) message ∧ Blames code
  unavailable : (∃ cause, outcome = .error (.unavailable cause)) ↔
                  (∀ closing, r ≠ .accepted closing) ∧
                    ∀ code message, r = .error (some code) message → ¬Blames code

theorem Means.judged (h : r.Means limit x) : r.Judged x.value := by
  cases h
  all_goals constructor
  all_goals simp_all

theorem Means.not_concernsIssue {e : Event} (h : r.Means limit x) (he : e ∈ x.events) :
    ¬e.ConcernsIssue := by
  cases h
  case closed        => cases he
  case invalidTarget => cases he
  all_goals
    cases List.mem_singleton.mp he
    exact id

end Reply

variable (d : Server) (identity secret : String)

theorem judged_attempt (h : Addresses target name) :
    (d.connect name identity secret).Judged
      (Directory.attempt d target identity secret).value := by
  rw [attempt_of_addresses h]
  exact (Reply.means_verdict ..).judged

theorem attempt_long (h : ∀ x, name ≠ "jdbc:" ++ x) :
    Directory.attempt d ("jdbc:" ++ name) identity secret =
      Directory.attempt d name identity secret := by
  rw [attempt_of_addresses <| .long name, attempt_of_addresses <| .short h]

end Server

-- How the gate reports that the directory does not accept a user.
def DirectoryError.report : DirectoryError → Event
  | .refused _     => .signInRejected
  | .unavailable _ => .signInIncomplete

theorem DirectoryError.not_concernsIssue_report (e : DirectoryError) : ¬e.report.ConcernsIssue := by
  cases e
  all_goals exact id

namespace Gate

section

variable {δ : Type} [Directory δ] {target identity secret : String} {e : DirectoryError}

-- If the directory does not accept the user, there is nothing in the answer but what it says.
theorem signInAt_of_error (g : Gate δ) (now : Instant)
    (h : (Directory.attempt g.directory target identity secret).value = .error e) :
    g.signInAt target identity secret now =
      ⟨.error <| .directory e,
        (Directory.attempt g.directory target identity secret).events ++ [e.report]⟩ := by
  apply Logged.ext
  case value =>
    simp only [signInAt, Logged.value_bind, h]
    rfl
  case events =>
    simp only [signInAt, Logged.events_bind, h]
    cases e
    all_goals rfl

end

-- How the gate answers a user, given what the directory says of the user. Without its consent no
-- token is made: none is reported, and neither the settings nor the time have a say.
structure Answers (g : Gate Server) (target identity secret : String) (now : Instant)
    (answer : Logged (Except GateError String)) : Prop where
  follows  : g.Follows (Directory.attempt g.directory target identity secret).value answer.value
  issued   : ∀ token, answer.value = .ok token → (g.settings.issue identity now).value = .ok token
  unissued : ∀ e, (Directory.attempt g.directory target identity secret).value = .error e →
               (∀ event ∈ answer.events, ¬event.ConcernsIssue) ∧ ∀ settings now',
                 { g with settings }.signInAt target identity secret now' = answer

theorem answers_signInAt (g : Gate Server) (target identity secret : String) (now : Instant) :
    g.Answers target identity secret now (g.signInAt target identity secret now) where
  follows       := g.follows_signInAt target identity secret now
  issued _ h    := (value_signInAt_eq_ok_iff.mp h).2
  unissued e he := by
    rw [g.signInAt_of_error now he]
    refine ⟨fun event hm => ?_, fun settings now' => signInAt_of_error _ now' he⟩
    obtain hm | hm := List.mem_append.mp hm
    case inl => exact (Server.Reply.means_verdict ..).not_concernsIssue hm
    case inr => exact List.mem_singleton.mp hm ▸ e.not_concernsIssue_report

end Gate
end TokenLifecycle
