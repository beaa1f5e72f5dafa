import TokenLifecycle.Proofs.Token.Renewal

namespace TokenLifecycle

variable {α β γ δ ε ε' : Type}

-- Both fail for the same reason, or both succeed with results that are related.
inductive Except.Rel (r : α → β → Prop) : Except ε α → Except ε β → Prop
  | error (e : ε) : Rel r (.error e) (.error e)
  | ok {a : α} {b : β} : (r a b) → Rel r (.ok a) (.ok b)

theorem Except.Rel.mapError {r : α → β → Prop} {x : Except ε α} {y : Except ε β}
    (h : Except.Rel r x y) (f : ε → ε') : Except.Rel r (x.mapError f) (y.mapError f) := by
  cases h
  case error e => exact .error (f e)
  case ok h    => exact .ok h

-- The results are related, and nothing tells one from the other by what is reported on the way.
structure Logged.Rel (r : α → β → Prop) (x : Logged α) (y : Logged β) : Prop where
  value  : r x.value y.value
  events : x.events = y.events

namespace Logged.Rel

variable {r : α → β → Prop} {q : γ → δ → Prop} {x : Logged α} {y : Logged β}
variable {f : α → Logged γ} {g : β → Logged δ} {a : α} {b : β}

theorem pure (h : r a b) : Rel r (pure a) (pure b) :=
  ⟨h, rfl⟩

theorem reporting (e : Event) (h : r a b) : Rel r (.reporting e a) (.reporting e b) :=
  ⟨h, rfl⟩

theorem bind (h : Rel r x y) (hf : ∀ a b, r a b → Rel q (f a) (g b)) :
    Rel q (x >>= f) (y >>= g) where
  value  := (hf _ _ h.value).value
  events := by rw [events_bind, events_bind, h.events, (hf _ _ h.value).events]

-- What comes first is the same for both.
theorem bind_same {x : Logged α} {f : α → Logged γ} {g : α → Logged δ}
    (hf : ∀ a, Rel q (f a) (g a)) : Rel q (x >>= f) (x >>= g) :=
  ⟨(hf x.value).value, congrArg (x.events ++ ·) (hf x.value).events⟩

-- What comes next may depend on how the first part ends.
theorem bind_outcome {x : Logged (Except ε α)} {y : Logged (Except ε β)}
    {f : Except ε α → Logged γ} {g : Except ε β → Logged δ} (h : Rel (Except.Rel r) x y)
    (hf : ∀ e, Rel q (f (.error e)) (g (.error e)))
    (hs : ∀ a b, r a b → Rel q (f (.ok a)) (g (.ok b))) : Rel q (x >>= f) (y >>= g) :=
  h.bind fun _ _ ho => by
    cases ho
    case error e => exact hf e
    case ok ho   => exact hs _ _ ho

end Logged.Rel

variable {k₁ k₂ : Key} {t₁ t₂ : AccessToken} {token₁ token₂ : String} {now : Instant}

-- The tokens are the same apart from their signatures, and the one signature is to the one key what
-- the other is to the other.
structure AccessToken.Counterpart (k₁ k₂ : Key) (t₁ t₂ : AccessToken) : Prop where
  message : t₁.message = t₂.message
  header  : t₁.header = t₂.header
  claims  : t₁.claims = t₂.claims
  signed  : ∀ a, t₁.SignedBy k₁ a ↔ t₂.SignedBy k₂ a

-- Whoever reads the texts gets such tokens, or gets none and is told the same.
def ReadAlike (k₁ k₂ : Key) (token₁ token₂ : String) : Prop :=
  Except.Rel (AccessToken.Counterpart k₁ k₂) (AccessToken.read token₁) (AccessToken.read token₂)

-- The texts are such tokens.
def Counterparts (k₁ k₂ : Key) (token₁ token₂ : String) : Prop :=
  ∃ t₁ t₂, AccessToken.read token₁ = .ok t₁ ∧ AccessToken.read token₂ = .ok t₂ ∧
    t₁.Counterpart k₁ k₂ t₂

theorem Counterparts.readAlike (h : Counterparts k₁ k₂ token₁ token₂) :
    ReadAlike k₁ k₂ token₁ token₂ := by
  have ⟨t₁, t₂, hr₁, hr₂, h⟩ := h
  rw [ReadAlike, hr₁, hr₂]
  exact .ok h

namespace Claims

theorem counterpart_sealed (h₁ : ¬k₁.Empty) (h₂ : ¬k₂.Empty) (c : Claims) :
    (c.sealed k₁).Counterpart k₁ k₂ (c.sealed k₂) where
  message  := rfl
  header   := rfl
  claims   := rfl
  signed a := by simp only [sealed, signedBy_signed_iff, h₁, h₂]

theorem counterparts_sealed (h₁ : ¬k₁.Empty) (h₂ : ¬k₂.Empty) (c : Claims) :
    Counterparts k₁ k₂ (c.sealed k₁).encoded (c.sealed k₂).encoded :=
  ⟨_, _, c.read_sealed k₁, c.read_sealed k₂, c.counterpart_sealed h₁ h₂⟩

theorem seal_eq_pure {k : Key} (hk : ¬k.Empty) (c : Claims) :
    c.seal k = pure (.ok (c.sealed k).encoded) := by
  simp only [Claims.seal, c.sign_eq_ok _ _ k hk]
  rfl

theorem rel_seal (h₁ : ¬k₁.Empty) (h₂ : ¬k₂.Empty) (c : Claims) :
    Logged.Rel (Except.Rel <| Counterparts k₁ k₂) (c.seal k₁) (c.seal k₂) := by
  rw [c.seal_eq_pure h₁, c.seal_eq_pure h₂]
  exact .pure <| .ok <| c.counterparts_sealed h₁ h₂

end Claims

-- The validator as it is with another key.
def Validator.withKey (v : Validator) (k : Key) : Validator :=
  { v with key := k }

namespace AccessToken.Counterpart

-- All that the signature of a token is judged by is whether the key accepts it.
theorem verify_eq (h : t₁.Counterpart k₁ k₂ t₂) : t₁.verify k₁ = t₂.verify k₂ := by
  simp only [verify, h.header]
  split
  case h_1     => rfl
  case h_2 a _ => exact if_congr (h.signed a) rfl rfl

theorem check_eq (h : t₁.Counterpart k₁ k₂ t₂) (v : Validator) (now : Instant) :
    (v.withKey k₁).check t₁ now = (v.withKey k₂).check t₂ now := by
  have hs : t₁.standing = t₂.standing := by simp only [standing, h.header, h.claims]
  have hv : t₁.verify (v.withKey k₁).key = t₂.verify (v.withKey k₂).key := h.verify_eq
  simp only [Validator.check, hs, hv]
  rfl

theorem accepts_eq (h : t₁.Counterpart k₁ k₂ t₂) (v : Validator) (now : Instant) :
    (v.withKey k₁).accepts t₁ now = (v.withKey k₂).accepts t₂ now := by
  rw [Validator.accepts, Validator.accepts, h.check_eq]
  rfl

end AccessToken.Counterpart

namespace Settings

-- The settings as they are with another key.
def withKey (s : Settings) (k : Key) : Settings :=
  { s with key := k }

theorem rel_issue (h₁ : ¬k₁.Empty) (h₂ : ¬k₂.Empty) (s : Settings) (principal : String)
    (t₀ : Instant) :
    Logged.Rel (Except.Rel <| Counterparts k₁ k₂)
      ((s.withKey k₁).issue principal t₀) ((s.withKey k₂).issue principal t₀) :=
  .bind_outcome ((s.claims principal t₀).rel_seal h₁ h₂) (fun e => .pure <| .error e)
    fun _ _ ht => .reporting _ <| .ok ht

theorem rel_renew (h₁ : ¬k₁.Empty) (h₂ : ¬k₂.Empty) (s : Settings)
    (ht : ReadAlike k₁ k₂ token₁ token₂) (extension : Span) (now : Instant) :
    Logged.Rel (Except.Rel <| Counterparts k₁ k₂)
      ((s.withKey k₁).renew token₁ extension now) ((s.withKey k₂).renew token₂ extension now) := by
  rw [ReadAlike] at ht
  rw [renew, renew]
  generalize AccessToken.read token₁ = x₁ at ht ⊢
  generalize AccessToken.read token₂ = x₂ at ht ⊢
  cases ht
  case error e => exact .reporting _ <| .error _
  case ok t₁ t₂ h =>
    change Logged.Rel _ ((s.renewer.withKey k₁).check t₁ now >>= _)
      ((s.renewer.withKey k₂).check t₂ now >>= _)
    rw [h.check_eq]
    refine .bind_same fun outcome => ?_
    cases outcome
    case error r => exact .reporting _ <| .error _
    case ok st   =>
      change Logged.Rel _ (if s.leeway.Elapsed st.refreshDeadline now then _ else _)
        (if s.leeway.Elapsed st.refreshDeadline now then _ else _)
      split
      case isTrue  => exact .reporting _ <| .error _
      case isFalse =>
        rw [h.claims]
        exact .bind_outcome (Claims.rel_seal h₁ h₂ _) (fun _ => .pure <| .error _)
          fun _ _ ht => .reporting _ <| .ok ht

end Settings
end TokenLifecycle
