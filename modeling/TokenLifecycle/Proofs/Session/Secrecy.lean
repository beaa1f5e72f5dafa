import Mathlib.Data.List.Forall2
import TokenLifecycle.Proofs.Session.Credentials
import TokenLifecycle.Proofs.Token.Rekeying

namespace TokenLifecycle

variable {k₁ k₂ : Key} {token₁ token₂ identity : String} {now : Instant}

-- Everybody who has the wrong secret is told the same.
theorem Roster.exists_judge_eq_error (r : Roster) (identity : String) :
    ∃ e, ∀ secret, r.secret? identity ≠ some secret → r.judge identity secret = .error e := by
  by_cases ho : r.online
  case neg => exact ⟨_, fun _ _ => if_neg ho⟩
  case pos =>
    simp only [judge, if_pos ho]
    cases r.secret? identity
    case none       => exact ⟨_, fun _ _ => rfl⟩
    case some known => exact ⟨_, fun secret hs => if_neg fun he => hs <| congrArg some he⟩

namespace Gate

variable {δ : Type}

-- The gate as it is with another key.
def withKey (g : Gate δ) (k : Key) : Gate δ :=
  { g with settings := g.settings.withKey k }

theorem rel_signInAt [Directory δ] (h₁ : ¬k₁.Empty) (h₂ : ¬k₂.Empty) (g : Gate δ)
    (target identity secret : String) (now : Instant) :
    Logged.Rel (Except.Rel <| Counterparts k₁ k₂)
      ((g.withKey k₁).signInAt target identity secret now)
      ((g.withKey k₂).signInAt target identity secret now) := by
  refine .bind_same fun outcome => ?_
  cases outcome
  case error e => cases e <;> exact .reporting _ <| .error _
  case ok      =>
    exact .bind_outcome (g.settings.rel_issue h₁ h₂ identity now) (fun _ => .pure <| .error _)
      fun _ _ ht => .reporting _ <| .ok ht

theorem rel_renew (h₁ : ¬k₁.Empty) (h₂ : ¬k₂.Empty) (g : Gate δ)
    (ht : ReadAlike k₁ k₂ token₁ token₂) (extension : Span) (now : Instant) :
    Logged.Rel (Except.Rel <| Counterparts k₁ k₂)
      ((g.withKey k₁).renew token₁ extension now) ((g.withKey k₂).renew token₂ extension now) :=
  .bind (g.settings.rel_renew h₁ h₂ ht extension now) fun _ _ h => .pure <| h.mapError _

theorem judge_eq (ht : ReadAlike k₁ k₂ token₁ token₂) {passes₁ passes₂ : AccessToken → Logged Bool}
    (hp : ∀ t₁ t₂, t₁.Counterpart k₁ k₂ t₂ → passes₁ t₁ = passes₂ t₂) :
    judge token₁ passes₁ = judge token₂ passes₂ := by
  rw [ReadAlike] at ht
  rw [judge, judge]
  generalize AccessToken.read token₁ = x₁ at ht ⊢
  generalize AccessToken.read token₂ = x₂ at ht ⊢
  cases ht
  case error e => rfl
  case ok t₁ t₂ h => exact hp t₁ t₂ h

theorem isValid_eq (g : Gate δ) (ht : ReadAlike k₁ k₂ token₁ token₂) (now : Instant) :
    (g.withKey k₁).isValid token₁ now = (g.withKey k₂).isValid token₂ now :=
  judge_eq ht fun _ _ h => h.accepts_eq { key := k₁, policy := .strict } now

theorem isAvailable_eq (g : Gate δ) (ht : ReadAlike k₁ k₂ token₁ token₂) (now : Instant) :
    (g.withKey k₁).isAvailable token₁ now = (g.withKey k₂).isAvailable token₂ now :=
  judge_eq ht fun _ _ h => h.accepts_eq { key := k₁, policy := .renewable } now

-- Of a secret that is wrong nothing is said but that.
theorem exists_signInAt_eq_error (g : Gate Roster) (target identity : String) (now : Instant) :
    ∃ e events, ∀ secret, g.directory.secret? identity ≠ some secret →
      g.signInAt target identity secret now = ⟨.error e, events⟩ := by
  have ⟨e, he⟩ := g.directory.exists_judge_eq_error identity
  have hd {secret} (hs : g.directory.secret? identity ≠ some secret) :
      Directory.attempt g.directory target identity secret = pure (.error e) :=
    congrArg pure <| he secret hs
  cases e
  case refused     => exact ⟨_, _, fun secret hs => by rw [signInAt, hd hs]; rfl⟩
  case unavailable => exact ⟨_, _, fun secret hs => by rw [signInAt, hd hs]; rfl⟩

end Gate

namespace Session

variable {s₁ s₂ s₀ : Session} {p₁ p₂ : Step} {ps₁ ps₂ : List Step} {r q : String → String → Prop}

inductive Presented.Matches (r : String → String → Prop) : Presented → Presented → Prop
  | text {token₁ token₂ : String} : (r token₁ token₂) → Matches r (.text token₁) (.text token₂)
  | kept (name : String) : Matches r (.kept name) (.kept name)

theorem Presented.Matches.mono {x₁ x₂ : Presented} (h : x₁.Matches r x₂)
    (hr : ∀ token₁ token₂, r token₁ token₂ → q token₁ token₂) : x₁.Matches q x₂ := by
  cases h
  case text ht   => exact .text <| hr _ _ ht
  case kept name => exact .kept name

-- The steps are the same, but each settles for its own key, and each presents its own token.
inductive Step.Matches (k₁ k₂ : Key) (r : String → String → Prop) : Step → Step → Prop
  | insert (identity secret : String) :
    Matches k₁ k₂ r (.insert identity secret) (.insert identity secret)
  | remove (identity : String) : Matches k₁ k₂ r (.remove identity) (.remove identity)
  | goOffline : Matches k₁ k₂ r .goOffline .goOffline
  | attempt (identity secret : String) :
    Matches k₁ k₂ r (.attempt identity secret) (.attempt identity secret)
  | signIn (identity secret : String) (target name? : Option String) :
    Matches k₁ k₂ r (.signIn identity secret target name?) (.signIn identity secret target name?)
  | renew {x₁ x₂ : Presented} (extension : Span) (name? : Option String) :
    (x₁.Matches r x₂) → Matches k₁ k₂ r (.renew x₁ extension name?) (.renew x₂ extension name?)
  | judge {x₁ x₂ : Presented} : (x₁.Matches r x₂) → Matches k₁ k₂ r (.judge x₁) (.judge x₂)
  | configure (settings : Settings) :
    Matches k₁ k₂ r (.configure <| settings.withKey k₁) (.configure <| settings.withKey k₂)
  | retarget (target : String) : Matches k₁ k₂ r (.retarget target) (.retarget target)
  | move (m : Clock.Move) : Matches k₁ k₂ r (.move m) (.move m)

theorem Step.Matches.mono (h : p₁.Matches k₁ k₂ r p₂)
    (hr : ∀ token₁ token₂, r token₁ token₂ → q token₁ token₂) : p₁.Matches k₁ k₂ q p₂ := by
  cases h
  case renew _ _ hx => exact .renew _ _ <| hx.mono hr
  case judge hx     => exact .judge <| hx.mono hr
  all_goals constructor

-- The answers are the same, but for the keys and the signatures in them.
inductive Answer.Matches (k₁ k₂ : Key) : Answer → Answer → Prop
  | done : Matches k₁ k₂ .done .done
  | previous (secret : Option String) : Matches k₁ k₂ (.previous secret) (.previous secret)
  | attempted (outcome : Except DirectoryError Unit) :
    Matches k₁ k₂ (.attempted outcome) (.attempted outcome)
  | produced {outcome₁ outcome₂ : Except GateError String} :
    (Except.Rel (Counterparts k₁ k₂) outcome₁ outcome₂) →
    Matches k₁ k₂ (.produced outcome₁) (.produced outcome₂)
  | judged (valid available : Bool) :
    Matches k₁ k₂ (.judged valid available) (.judged valid available)
  | configured (settings : Settings) :
    Matches k₁ k₂ (.configured <| settings.withKey k₁) (.configured <| settings.withKey k₂)
  | retargeted (target : String) : Matches k₁ k₂ (.retargeted target) (.retargeted target)

-- The sessions are the same, but for the keys and the signatures in them.
structure Matches (k₁ k₂ : Key) (s₁ s₂ : Session) : Prop where
  roster   : s₁.roster = s₂.roster
  settings : ∃ s : Settings, s₁.settings = s.withKey k₁ ∧ s₂.settings = s.withKey k₂
  target   : s₁.target = s₂.target
  clock    : s₁.clock = s₂.clock
  tokens   : ∀ name : String, Option.Rel (Counterparts k₁ k₂) s₁.tokens[name]? s₂.tokens[name]?

namespace Matches

theorem exists_gate (h : s₁.Matches k₁ k₂ s₂) :
    ∃ g : Gate Roster, s₁.gate = g.withKey k₁ ∧ s₂.gate = g.withKey k₂ := by
  have ⟨s, hs₁, hs₂⟩ := h.settings
  refine ⟨⟨s₁.roster, s₁.target, s⟩, ?_, ?_⟩
  · simp only [gate, Gate.withKey, hs₁]
  · simp only [gate, Gate.withKey, hs₂, h.roster, h.target]

theorem now_eq (h : s₁.Matches k₁ k₂ s₂) : s₁.now = s₂.now :=
  congrArg Clock.reading h.clock

theorem readAlike {x₁ x₂ : Presented} (h : s₁.Matches k₁ k₂ s₂)
    (hx : x₁.Matches (Counterparts k₁ k₂) x₂) :
    ReadAlike k₁ k₂ (s₁.token x₁) (s₂.token x₂) := by
  cases hx
  case text ht   => exact ht.readAlike
  case kept name =>
    simp only [token, Std.HashMap.getD_eq_getD_getElem?]
    generalize s₁.tokens[name]? = o₁, s₂.tokens[name]? = o₂, h.tokens name = ht
    cases ht
    case some ht => exact ht.readAlike
    case none    => exact .error _

theorem keep (h : s₁.Matches k₁ k₂ s₂) (name? : Option String)
    {outcome₁ outcome₂ : Except GateError String}
    (ho : Except.Rel (Counterparts k₁ k₂) outcome₁ outcome₂) :
    (s₁.keep name? outcome₁).Matches k₁ k₂ (s₂.keep name? outcome₂) := by
  cases ho
  case error => exact h
  case ok token₁ token₂ ht =>
    cases name?
    case none => exact h
    case some name =>
      refine { h with tokens := fun name' => ?_ }
      simp only [Session.keep, Std.HashMap.getElem?_insert]
      split
      case isTrue => exact .some ht
      case isFalse => exact h.tokens name'

end Matches

-- The session as it is with another key.
def withKey (s : Session) (k : Key) : Session :=
  { s with settings := s.settings.withKey k }

theorem matches_withKey (h₀ : s₀.tokens = ∅) (k₁ k₂ : Key) :
    (s₀.withKey k₁).Matches k₁ k₂ (s₀.withKey k₂) where
  roster      := rfl
  settings    := ⟨s₀.settings, rfl, rfl⟩
  target      := rfl
  clock       := rfl
  tokens name := by
    simp only [withKey, h₀, Std.HashMap.getElem?_empty]
    exact .none

-- A step of each of two such sessions leads to such sessions, and to answers that are alike.
theorem rel_step (h₁ : ¬k₁.Empty) (h₂ : ¬k₂.Empty) (hs : s₁.Matches k₁ k₂ s₂)
    (hp : p₁.Matches k₁ k₂ (Counterparts k₁ k₂) p₂) :
    Logged.Rel (fun x y => x.1.Matches k₁ k₂ y.1 ∧ x.2.Matches k₁ k₂ y.2)
      (s₁.step p₁) (s₂.step p₂) := by
  have ⟨g, hg₁, hg₂⟩ := hs.exists_gate
  have hn := hs.now_eq
  cases hp
  case insert identity secret =>
    exact .pure ⟨{ hs with roster := hs.roster ▸ rfl }, hs.roster ▸ .previous _⟩
  case remove identity =>
    exact .pure ⟨{ hs with roster := hs.roster ▸ rfl }, hs.roster ▸ .previous _⟩
  case goOffline => exact .pure ⟨{ hs with roster := hs.roster ▸ rfl }, .done⟩
  case attempt identity secret =>
    simp only [step, hs.roster, hs.target]
    exact .bind_same fun outcome => .pure ⟨hs, .attempted outcome⟩
  case signIn identity secret target name? =>
    simp only [step, hg₁, hg₂, hs.target, hn]
    exact .bind (g.rel_signInAt h₁ h₂ ..) fun _ _ ho => .pure ⟨hs.keep name? ho, .produced ho⟩
  case renew extension name? hx =>
    simp only [step, hg₁, hg₂, hn]
    exact .bind (g.rel_renew h₁ h₂ (hs.readAlike hx) ..) fun _ _ ho =>
      .pure ⟨hs.keep name? ho, .produced ho⟩
  case judge hx =>
    have ht := hs.readAlike hx
    simp only [step, hg₁, hg₂, hn, g.isValid_eq ht, g.isAvailable_eq ht]
    exact .bind_same fun valid => .bind_same fun available => .pure ⟨hs, .judged valid available⟩
  case configure settings =>
    exact .pure ⟨{ hs with settings := ⟨settings, rfl, rfl⟩ }, .configured settings⟩
  case retarget target => exact .pure ⟨{ hs with target := rfl }, .retargeted target⟩
  case move m => exact .pure ⟨{ hs with clock := hs.clock ▸ rfl }, .done⟩

-- The same step of either run handed out the token.
def HandedOut (s₁ s₂ : Session) (ps₁ ps₂ : List Step) (token₁ token₂ : String) : Prop :=
  ∃ e₁ e₂, (e₁, e₂) ∈ (s₁.run ps₁).zip (s₂.run ps₂) ∧
    e₁.1.value = .produced (.ok token₁) ∧ e₂.1.value = .produced (.ok token₂)

-- The steps of two runs, each with its own key. Nobody brings a token along.
inductive Lockstep (k₁ k₂ : Key) (s₁ s₂ : Session) : List Step → List Step → Prop
  | nil : Lockstep k₁ k₂ s₁ s₂ [] []
  | concat {ps₁ ps₂ : List Step} {p₁ p₂ : Step} :
    (Lockstep k₁ k₂ s₁ s₂ ps₁ ps₂) → (p₁.Matches k₁ k₂ (HandedOut s₁ s₂ ps₁ ps₂) p₂) →
    Lockstep k₁ k₂ s₁ s₂ (ps₁ ++ [p₁]) (ps₂ ++ [p₂])

-- What is noted down about two steps is the same, but for the keys and the signatures in it.
structure EntryMatches (k₁ k₂ : Key) (e₁ e₂ : Logged Answer × Instant) : Prop where
  answer : Logged.Rel (Answer.Matches k₁ k₂) e₁.1 e₂.1
  now    : e₁.2 = e₂.2

theorem HandedOut.counterparts (h : HandedOut s₁ s₂ ps₁ ps₂ token₁ token₂)
    (he : List.Forall₂ (EntryMatches k₁ k₂) (s₁.run ps₁) (s₂.run ps₂)) :
    Counterparts k₁ k₂ token₁ token₂ := by
  have ⟨e₁, e₂, hm, h₁, h₂⟩ := h
  have ha := ((List.forall₂_iff_zip.mp he).2 hm).answer.value
  rw [h₁, h₂] at ha
  cases ha
  case produced ho =>
    cases ho
    case ok ht => exact ht

theorem Lockstep.matches_after (h₁ : ¬k₁.Empty) (h₂ : ¬k₂.Empty) (hs : s₁.Matches k₁ k₂ s₂)
    (h : Lockstep k₁ k₂ s₁ s₂ ps₁ ps₂) :
    (s₁.after ps₁).Matches k₁ k₂ (s₂.after ps₂) ∧
      List.Forall₂ (EntryMatches k₁ k₂) (s₁.run ps₁) (s₂.run ps₂) := by
  induction h
  case nil => exact ⟨hs, .nil⟩
  case concat hp hi =>
    obtain ⟨hs, he⟩ := hi
    have hn := rel_step h₁ h₂ hs <| hp.mono fun _ _ ht => ht.counterparts he
    simp only [after_concat, run_concat]
    refine ⟨hn.value.1, List.rel_append he <| .cons ⟨⟨hn.value.2, hn.events⟩, ?_⟩ .nil⟩
    exact hn.value.1.now_eq

-- What is answered and reported shows of a key nothing but the signatures that are made with it,
-- and of a secret nothing but that it is wrong.
theorem conceals_keys_and_secrets :
    (∀ (k₁ k₂ : Key) (s₀ : Session) (ps₁ ps₂ : List Step),
      ¬k₁.Empty → ¬k₂.Empty → s₀.tokens = ∅ →
      Lockstep k₁ k₂ (s₀.withKey k₁) (s₀.withKey k₂) ps₁ ps₂ →
      List.Forall₂ (EntryMatches k₁ k₂) ((s₀.withKey k₁).run ps₁) ((s₀.withKey k₂).run ps₂)) ∧
    ∀ (g : Gate Roster) (target identity : String) (now : Instant),
      ∃ e events, ∀ secret, g.directory.secret? identity ≠ some secret →
        g.signInAt target identity secret now = ⟨.error e, events⟩ :=
  ⟨fun k₁ k₂ _ _ _ h₁ h₂ h₀ h => (h.matches_after h₁ h₂ <| matches_withKey h₀ k₁ k₂).2,
    Gate.exists_signInAt_eq_error⟩

-- The first token is presented as it was handed out, and then by its name, on a clock that was put
-- back.
theorem conceals_keys_and_secrets_of_renewal :
    let k₁ : Key := ⟨[0x6b]⟩
    let k₂ : Key := ⟨[0x6c]⟩
    let s : Settings := { key := ⟨[]⟩ }
    let s₀ : Session := {
      roster   := Roster.empty.insert "alice" "wonderland"
      settings := s
      target   := "memory"
      clock    := ⟨{ seconds := 1000 }⟩ }
    let token (k : Key) := ((s.claims "alice" { seconds := 1000 }).sealed k).encoded
    let ps (k : Key) : List Step := [
      .signIn "alice" "wonderland" none "kept",
      .judge (.text <| token k),
      .move <| .back { seconds := 5 },
      .configure <| { s with audience := none }.withKey k,
      .renew (.kept "kept") { seconds := 3600 } none]
    let g : Gate Roster := s₀.gate
    (¬k₁.Empty ∧ ¬k₂.Empty ∧ s₀.tokens = ∅ ∧
      Lockstep k₁ k₂ (s₀.withKey k₁) (s₀.withKey k₂) (ps k₁) (ps k₂)) ∧
    List.Forall₂ (EntryMatches k₁ k₂) ((s₀.withKey k₁).run (ps k₁)) ((s₀.withKey k₂).run (ps k₂)) ∧
    ∃ e events, g.signInAt "memory" "alice" "looking-glass" .epoch = ⟨.error e, events⟩ ∧
      g.signInAt "memory" "alice" "" .epoch = ⟨.error e, events⟩ := by
  intro k₁ k₂ s s₀ token ps g
  have h₁ : ¬k₁.Empty := by decide
  have h₂ : ¬k₂.Empty := by decide
  let first : Step := .signIn "alice" "wonderland" none "kept"
  have hy (k : Key) (hk : ¬k.Empty) : (Moment.mk (s₀.withKey k) first).Yields (token k) :=
    Moment.yields_signIn_iff.mpr
      ⟨⟨rfl, Roster.secret?_insert_self⟩, Settings.value_issue_eq_ok_iff.mpr ⟨hk, rfl⟩⟩
  have ht : HandedOut (s₀.withKey k₁) (s₀.withKey k₂) [first] [first] (token k₁) (token k₂) :=
    ⟨_, _, .head _, hy k₁ h₁, hy k₂ h₂⟩
  have hs : g.directory.secret? "alice" = some "wonderland" := Roster.secret?_insert_self
  have h₀ : s₀.tokens = ∅ := rfl
  -- How the token is written does not matter for the run.
  clear_value token
  have hl : Lockstep k₁ k₂ (s₀.withKey k₁) (s₀.withKey k₂) _ _ :=
    .concat .nil <| .signIn "alice" "wonderland" none "kept"
  have hl := hl.concat <| .judge (.text ht)
  have hl := hl.concat <| .move (.back { seconds := 5 })
  have hl := hl.concat <| .configure { s with audience := none }
  have hl : Lockstep k₁ k₂ (s₀.withKey k₁) (s₀.withKey k₂) (ps k₁) (ps k₂) :=
    hl.concat <| .renew { seconds := 3600 } none (.kept "kept")
  have ⟨hk, hn⟩ := conceals_keys_and_secrets
  have ⟨e, events, he⟩ := hn g "memory" "alice" .epoch
  refine ⟨⟨h₁, h₂, h₀, hl⟩, hk _ _ _ _ _ h₁ h₂ h₀ hl, e, events, he _ ?_, he _ ?_⟩
  · simp [hs]
  · simp [hs]

end Session
end TokenLifecycle
