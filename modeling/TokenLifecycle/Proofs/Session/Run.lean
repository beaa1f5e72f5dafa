import Mathlib.Data.List.Induction
import TokenLifecycle.Proofs.Gate.SignIn
import TokenLifecycle.Proofs.Token.Reading
import TokenLifecycle.Session

namespace TokenLifecycle.Session

variable {s : Session} {name token : String}

theorem getElem?_tokens_keep {name? : Option String} {outcome : Except GateError String}
    (h : (s.keep name? outcome).tokens[name]? = some token) :
    s.tokens[name]? = some token ∨ outcome = .ok token := by
  cases outcome
  case error => exact .inl h
  case ok new =>
    cases name?
    case none => exact .inl h
    case some name' =>
      simp only [keep, Std.HashMap.getElem?_insert] at h
      split at h
      case isTrue  => exact .inr <| congrArg Except.ok <| Option.some.inj h
      case isFalse => exact .inl h

-- A step, and the session before it.
structure Moment where
  session : Session
  step    : Step

namespace Moment

def next (m : Moment) : Session :=
  (m.session.step m.step).value.1

def answer (m : Moment) : Answer :=
  (m.session.step m.step).value.2

-- What is noted down about the step.
def entry (m : Moment) : Logged Answer × Instant :=
  (⟨m.answer, (m.session.step m.step).events⟩, m.next.now)

-- The step hands out the token.
def Yields (m : Moment) (token : String) : Prop :=
  m.answer = .produced (.ok token)

-- The step lets a user in, who is known to the directory.
structure LetsIn (m : Moment) (identity secret : String) : Prop where
  asked   : ∃ target name, m.step = .signIn identity secret target name
  online  : m.session.roster.online
  known   : m.session.roster.secret? identity = some secret
  granted : ∃ token, m.Yields token

variable {m : Moment} {identity secret : String} {presented : Presented} {extension : Span}
variable {target name? : Option String}

theorem yields_signIn_iff :
    (Moment.mk s <| .signIn identity secret target name?).Yields token ↔
      (s.roster.online ∧ s.roster.secret? identity = some secret) ∧
        (s.settings.issue identity s.now).value = .ok token := by
  rw [← Roster.judge_eq_ok_iff]
  exact (Iff.of_eq <| Answer.produced.injEq ..).trans Gate.value_signInAt_eq_ok_iff

theorem next_signIn (h : (Moment.mk s <| .signIn identity secret target name?).Yields token) :
    (Moment.mk s <| .signIn identity secret target name?).next = s.keep name? (.ok token) :=
  congrArg (s.keep name?) <| Answer.produced.inj h

theorem yields_renew_iff :
    (Moment.mk s <| .renew presented extension name?).Yields token ↔
      (s.settings.renew (s.token presented) extension s.now).value = .ok token :=
  (Iff.of_eq <| Answer.produced.injEq ..).trans Except.mapError_eq_ok_iff

-- No other step hands out a token.
theorem Yields.elim (h : m.Yields token) :
    (∃ identity secret, m.LetsIn identity secret ∧
      (m.session.settings.issue identity m.session.now).value = .ok token) ∨
    (∃ presented extension name?, m.step = .renew presented extension name? ∧
      (m.session.settings.renew (m.session.token presented) extension m.session.now).value =
        .ok token) := by
  obtain ⟨s, p⟩ := m
  cases p
  case signIn identity secret target name? =>
    have ⟨⟨ho, hs⟩, hi⟩ := yields_signIn_iff.mp h
    exact .inl ⟨identity, secret, ⟨⟨target, name?, rfl⟩, ho, hs, token, h⟩, hi⟩
  case renew presented extension name? =>
    exact .inr ⟨presented, extension, name?, rfl, yields_renew_iff.mp h⟩
  all_goals exact nomatch h

-- A token that is kept was kept before, or is the one that was just handed out.
theorem getElem?_tokens_next (h : m.next.tokens[name]? = some token) :
    m.session.tokens[name]? = some token ∨ m.Yields token := by
  obtain ⟨s, p⟩ := m
  cases p
  case signIn => exact (getElem?_tokens_keep h).imp_right <| congrArg Answer.produced
  case renew  => exact (getElem?_tokens_keep h).imp_right <| congrArg Answer.produced
  all_goals exact .inl h

end Moment

-- A token that is presented for renewal by its text was handed out at one of the moments.
def Step.DrawsOn (p : Step) (ms : List Moment) : Prop :=
  match p with
  | .renew (.text token) .. => ∃ m ∈ ms, m.Yields token
  | _                       => True

-- The moments of a session that starts without tokens, and the session that it has become. Nobody
-- brings a token along.
inductive Run (s₀ : Session) : List Moment → Session → Prop
  | start : (s₀.tokens = ∅) → Run s₀ [] s₀
  | step {ms : List Moment} {s : Session} {p : Step} :
    (Run s₀ ms s) → (p.DrawsOn ms) → Run s₀ (ms ++ [⟨s, p⟩]) (Moment.next ⟨s, p⟩)

-- The session after some steps.
def after (s : Session) (ps : List Step) : Session :=
  ps.foldl (fun s p => (s.step p).value.1) s

theorem run_concat (s : Session) (ps : List Step) (p : Step) :
    s.run (ps ++ [p]) = s.run ps ++ [Moment.entry ⟨s.after ps, p⟩] := by
  induction ps generalizing s
  case nil           => rfl
  case cons p' ps hi => exact congrArg (_ :: ·) <| hi _

namespace Run

variable {s₀ : Session} {ms : List Moment}

theorem eq_after (h : Run s₀ ms s) : s = s₀.after (ms.map (·.step)) := by
  induction h
  case start => rfl
  case step ms s p _ _ hi =>
    simp only [Moment.next, after, List.map_append, List.foldl_append]
    exact congrArg (fun s : Session => (s.step p).value.1) hi

-- What the session answers is what is noted down about the moments.
theorem run_eq (h : Run s₀ ms s) : s₀.run (ms.map (·.step)) = ms.map (·.entry) := by
  induction h
  case start => rfl
  case step hr _ hi =>
    simp only [List.map_append, List.map_cons, List.map_nil, run_concat, hi, ← hr.eq_after]

theorem of_append {ms' : List Moment} (h : Run s₀ (ms ++ ms') s) : ∃ s', Run s₀ ms s' := by
  induction ms' using List.reverseRecOn generalizing s
  case nil => exact ⟨s, List.append_nil ms ▸ h⟩
  case append_singleton ms' m hi =>
    rw [← List.append_assoc] at h
    generalize hm : ms ++ ms' ++ [m] = ms'' at h
    cases h
    case start => simp at hm
    case step hr _ => exact hi <| (List.append_inj_left' hm rfl) ▸ hr

-- Every token that is kept was handed out.
theorem exists_yields_of_getElem? (h : Run s₀ ms s) (ht : s.tokens[name]? = some token) :
    ∃ m ∈ ms, m.Yields token := by
  induction h
  case start h₀ => simp [h₀] at ht
  case step hr _ hi =>
    obtain ht | hy := Moment.getElem?_tokens_next ht
    case inl =>
      have ⟨m, hm, hy⟩ := hi ht
      exact ⟨m, List.mem_append_left _ hm, hy⟩
    case inr => exact ⟨_, List.mem_append_right _ <| .head _, hy⟩

end Run
end TokenLifecycle.Session
