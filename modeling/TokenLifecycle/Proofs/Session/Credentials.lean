import TokenLifecycle.Proofs.Session.Run

namespace TokenLifecycle

variable {identity secret text : String} {e : DirectoryError}

-- The directory does not accept what was presented, and says so in these words.
def DirectoryError.Refuses (e : DirectoryError) (text : String) : Prop :=
  ∃ cause, e = .refused cause ∧ cause.message = text

theorem DirectoryError.refuses_refused_iff {cause : Refusal} :
    (DirectoryError.refused cause).Refuses text ↔ text = cause.message := by
  simp only [Refuses, refused.injEq, exists_eq_left', eq_comm]

-- A user who has another secret is not told the same as those who are not known.
theorem Refusal.message_wrongSecret_ne (identity identity' : String) :
    (wrongSecret identity).message ≠ (unknownIdentity identity').message := by
  intro h
  change "password authentication failed for user \"" ++ identity ++ "\"" =
    "role \"" ++ identity' ++ "\" does not exist" at h
  have := congrArg (fun s : String => s.toList.head?) h
  simp at this

namespace Roster

variable {r : Roster}

theorem exists_judge_eq_unavailable_iff :
    (∃ o, r.judge identity secret = .error (.unavailable o)) ↔ ¬r.online := by
  simp only [judge]
  split
  case isFalse ho => simp [ho]
  case isTrue ho  => split <;> (try split) <;> simp_all

-- A directory that can be asked refuses those whose secret is another one, and those it does not
-- know, and it is one or the other that they are told.

theorem exists_judge_refuses_iff (ho : r.online) :
    (∃ e, r.judge identity secret = .error e ∧ e.Refuses text) ↔
      (∃ known ≠ secret, r.secret? identity = some known ∧
        text = (Refusal.wrongSecret identity).message) ∨
      r.secret? identity = none ∧ text = (Refusal.unknownIdentity identity).message := by
  simp only [judge, if_pos ho]
  split
  case h_1 hs => simp [hs, DirectoryError.refuses_refused_iff]
  case h_2 known hs =>
    split
    case isTrue hk  => simp [hs, hk]
    case isFalse hk => simp [hs, hk, DirectoryError.refuses_refused_iff]

theorem exists_judge_refuses_wrongSecret_iff (ho : r.online) :
    (∃ e, r.judge identity secret = .error e ∧ e.Refuses (Refusal.wrongSecret identity).message) ↔
      ∃ known ≠ secret, r.secret? identity = some known := by
  simp only [exists_judge_refuses_iff ho, Refusal.message_wrongSecret_ne, and_false, or_false,
    and_true]

theorem exists_judge_refuses_unknownIdentity_iff (ho : r.online) :
    (∃ e, r.judge identity secret = .error e ∧
        e.Refuses (Refusal.unknownIdentity identity).message) ↔
      r.secret? identity = none := by
  simp only [exists_judge_refuses_iff ho, (Refusal.message_wrongSecret_ne _ _).symm, and_false,
    exists_false, false_or, and_true]

theorem judge_congr {r' : Roster} (ho : r.online ↔ r'.online)
    (hs : r.secret? identity = r'.secret? identity) (secret : String) :
    r.judge identity secret = r'.judge identity secret := by
  simp only [judge, ho, hs]

end Roster

namespace Session

variable {s s₀ : Session} {p : Step} {ps : List Step}

namespace Step

-- The step is about what the directory holds for the identity.
def Names : Step → String → Prop
  | insert identity' _, identity => identity' = identity
  | remove identity', identity   => identity' = identity
  | _, _                         => False

instance : DecidableRel Names
  | insert identity' _, identity => inferInstanceAs (Decidable (identity' = identity))
  | remove identity', identity   => inferInstanceAs (Decidable (identity' = identity))
  | goOffline, _ | attempt .., _ | signIn .., _ | renew .., _ | judge _, _ | configure _, _
  | retarget _, _ | move _, _    => inferInstanceAs (Decidable False)

-- The secret that the step leaves behind.
def secret? : Step → Option String
  | insert _ secret => some secret
  | _               => none

end Step

theorem roster_keep (s : Session) (name? : Option String) (outcome : Except GateError String) :
    (s.keep name? outcome).roster = s.roster := by
  cases outcome
  case error => rfl
  case ok    => cases name? <;> rfl

-- What a step does to the directory.

theorem secret?_roster_step (s : Session) (p : Step) (identity : String) :
    (s.step p).value.1.roster.secret? identity =
      if p.Names identity then p.secret? else s.roster.secret? identity := by
  cases p
  case insert identity' secret =>
    by_cases h : identity' = identity
    case pos =>
      subst h
      exact Roster.secret?_insert_self.trans (if_pos rfl).symm
    case neg => exact (Roster.secret?_insert_of_ne h).trans (if_neg h).symm
  case remove identity' =>
    by_cases h : identity' = identity
    case pos =>
      subst h
      exact Roster.secret?_erase_self.trans (if_pos rfl).symm
    case neg => exact (Roster.secret?_erase_of_ne h).trans (if_neg h).symm
  case signIn => exact congrArg (Roster.secret? · identity) <| roster_keep ..
  case renew  => exact congrArg (Roster.secret? · identity) <| roster_keep ..
  all_goals rfl

theorem online_roster_step (s : Session) (p : Step) :
    (s.step p).value.1.roster.online ↔ s.roster.online ∧ p ≠ .goOffline := by
  cases p
  case signIn => simp [step, roster_keep]
  case renew  => simp [step, roster_keep]
  all_goals simp [step, Roster.insert, Roster.erase, Roster.goOffline]

-- The last of the steps that is about the identity.
def latest (ps : List Step) (identity : String) : Option Step :=
  (ps.filter (·.Names identity)).getLast?

theorem latest_concat (ps : List Step) (p : Step) (identity : String) :
    latest (ps ++ [p]) identity = if p.Names identity then some p else latest ps identity := by
  simp only [latest, List.filter_append, List.filter_singleton]
  split <;> simp_all

theorem after_concat (s : Session) (ps : List Step) (p : Step) :
    s.after (ps ++ [p]) = ((s.after ps).step p).value.1 := by
  simp only [after, List.foldl_append, List.foldl_cons, List.foldl_nil]

-- Nothing but the latest step that is about an identity matters for the secret that it has.
theorem secret?_roster_after (h₀ : s₀.roster = .empty) (ps : List Step) (identity : String) :
    (s₀.after ps).roster.secret? identity = (latest ps identity).bind Step.secret? := by
  induction ps using List.reverseRecOn
  case nil => simp [after, h₀, Roster.secret?_empty, latest]
  case append_singleton ps p hi =>
    rw [after_concat, latest_concat, secret?_roster_step, hi]
    split <;> rfl

theorem online_roster_after (h₀ : s₀.roster = .empty) (ps : List Step) :
    (s₀.after ps).roster.online ↔ .goOffline ∉ ps := by
  induction ps using List.reverseRecOn
  case nil => simp [after, h₀, Roster.empty]
  case append_singleton ps p hi =>
    rw [after_concat, online_roster_step, hi]
    simp [eq_comm]

theorem names_of_latest (h : latest ps identity = some p) : p.Names identity := by
  simpa using (List.mem_filter.mp <| List.mem_of_getLast? h).2

theorem secret?_latest_eq_some_iff :
    (latest ps identity).bind Step.secret? = some secret ↔
      latest ps identity = some (.insert identity secret) := by
  cases hl : latest ps identity
  case none   => simp
  case some p =>
    have hn := names_of_latest hl
    cases p
    case insert => obtain rfl := hn; simp [Step.secret?]
    case remove => simp [Step.secret?]
    all_goals cases hn

theorem secret?_latest_eq_none_iff :
    (latest ps identity).bind Step.secret? = none ↔
      latest ps identity = some (.remove identity) ∨ latest ps identity = none := by
  cases hl : latest ps identity
  case none   => simp
  case some p =>
    have hn := names_of_latest hl
    cases p
    case insert => simp [Step.secret?]
    case remove => obtain rfl := hn; simp [Step.secret?]
    all_goals cases hn

-- What is handed back is the secret that is given up.
theorem answer_step_of_names (s : Session) (h : p.Names identity) :
    (s.step p).value.2 = .previous (s.roster.secret? identity) := by
  cases p
  case insert => exact h ▸ rfl
  case remove => exact h ▸ rfl
  all_goals cases h

-- How an attempt to sign in has to end after the steps.
structure Settles (ps : List Step) (identity secret : String)
    (outcome : Except DirectoryError Unit) : Prop where
  unavailable : (∃ o, outcome = .error (.unavailable o)) ↔ .goOffline ∈ ps
  accepted    : .goOffline ∉ ps →
    (outcome = .ok () ↔ latest ps identity = some (.insert identity secret))
  wrongSecret : .goOffline ∉ ps →
    ((∃ e, outcome = .error e ∧
        e.Refuses ("password authentication failed for user \"" ++ identity ++ "\"")) ↔
      ∃ known ≠ secret, latest ps identity = some (.insert identity known))
  unknown     : .goOffline ∉ ps →
    ((∃ e, outcome = .error e ∧ e.Refuses ("role \"" ++ identity ++ "\" does not exist")) ↔
      latest ps identity = some (.remove identity) ∨ latest ps identity = none)

theorem settles_after (h₀ : s₀.roster = .empty) (ps : List Step) (identity secret : String) :
    Settles ps identity secret ((s₀.after ps).roster.judge identity secret) := by
  have ho := online_roster_after h₀ ps
  have hs := secret?_roster_after h₀ ps identity
  constructor
  case unavailable => rw [Roster.exists_judge_eq_unavailable_iff, ho, not_not]
  case accepted =>
    intro h
    rw [Roster.judge_eq_ok_iff, hs, secret?_latest_eq_some_iff, and_iff_right (ho.mpr h)]
  case wrongSecret =>
    intro h
    simp only [← secret?_latest_eq_some_iff, ← hs]
    exact Roster.exists_judge_refuses_wrongSecret_iff <| ho.mpr h
  case unknown =>
    intro h
    rw [← secret?_latest_eq_none_iff, ← hs]
    exact Roster.exists_judge_refuses_unknownIdentity_iff <| ho.mpr h

end Session
end TokenLifecycle
