import TokenLifecycle.Proofs.Token.Issuance
import TokenLifecycle.Token.Renewal

namespace TokenLifecycle

variable {s : Settings} {c : Claims} {k : Key} {now : Instant} {extension : Span}
variable {token new : String}

namespace Settings

-- Who asks for a renewal with the settings.
def renewer (s : Settings) : Validator where
  key    := s.key
  policy := .renewable
  leeway := s.leeway

-- A token is renewed if it can be read, is available, and has an open refresh window. Then its
-- claims are handed on, apart from the two horizons that a renewal moves.
theorem value_renew_eq_ok_iff :
    (s.renew token extension now).value = .ok new ↔
      ∃ t st, AccessToken.read token = .ok t ∧ (s.renewer.check t now).value = .ok st ∧
        ¬s.leeway.Elapsed st.refreshDeadline now ∧
        new = ((t.claims.renewed st.availability s extension now).sealed s.key).encoded where
  mp h := by
    simp only [renew] at h
    split at h
    case h_1 => cases h
    case h_2 t ht =>
      rw [Logged.value_bind] at h
      split at h
      case h_1 => cases h
      case h_2 st hc =>
        split at h
        case isTrue     => cases h
        case isFalse he =>
          rw [Logged.value_bind] at h
          split at h
          case h_1 => cases h
          case h_2 new' hs =>
            cases h
            exact ⟨t, st, ht, hc, he, (Claims.value_seal_eq_ok_iff.mp hs).2⟩
  mpr := by
    intro ⟨t, st, ht, hc, he, hn⟩
    have hk := (Validator.value_check_eq_ok_iff.mp hc).2.2.1.usable
    have hc : (Validator.check ⟨s.key, .renewable, s.leeway, []⟩ t now).value = .ok st := hc
    have hs : ((t.claims.renewed st.availability s extension now).seal s.key).value = .ok new :=
      Claims.value_seal_eq_ok_iff.mpr ⟨hk, hn⟩
    simp only [renew, ht, Logged.value_bind, hc, if_neg he, hs, Logged.value_reporting]

-- What a token that is to be renewed now has to be like. Its expiry is not looked at.
structure Grants (s : Settings) (t : AccessToken) (st : Standing) (now : Instant) : Prop where
  standing  : t.HasStanding st
  algorithm : st.algorithm = .hs256
  signed    : t.SignedBy s.key .hs256
  begun     : ¬s.leeway.Premature st.issuedAt now
  available : ∀ ceiling, st.availability = .bounded ceiling → ¬s.leeway.Elapsed ceiling now
  timely    : ¬s.leeway.Elapsed st.refreshDeadline now

theorem value_renew_eq_ok_iff_grants :
    (s.renew token extension now).value = .ok new ↔
      ∃ t st, AccessToken.read token = .ok t ∧ s.Grants t st now ∧
        new = ((t.claims.renewed st.availability s extension now).sealed s.key).encoded := by
  rw [value_renew_eq_ok_iff]
  constructor
  case mp =>
    intro ⟨t, st, ht, hc, he, hn⟩
    have ⟨hs, ha, hk, hb, hv, _⟩ := Validator.value_check_eq_ok_iff.mp hc
    have ha : st.algorithm = .hs256 := List.mem_singleton.mp ha
    exact ⟨t, st, ht, ⟨hs, ha, ha ▸ hk, hb, hv, he⟩, hn⟩
  case mpr =>
    intro ⟨t, st, ht, ⟨hs, ha, hk, hb, hv, he⟩, hn⟩
    refine ⟨t, st, ht, Validator.value_check_eq_ok_iff.mpr ⟨hs, ?_, ha ▸ hk, ?_⟩, he, hn⟩
    · exact List.mem_singleton.mpr ha
    · exact ⟨hb, hv, .inr ⟨rfl, he⟩⟩

end Settings

namespace Claims

-- What a renewal hands on, which is all but the horizons that it moves.
def origin (c : Claims) : Claims :=
  { c with expiry := none, refreshDeadline := none }

theorem origin_renewed (c : Claims) (av : Availability) (s : Settings) (extension : Span)
    (now : Instant) : (c.renewed av s extension now).origin = c.origin :=
  rfl

-- The claims are those of a token that was issued at `t₀`, or of one that took its place.
def StemsFrom (c : Claims) (s₀ : Settings) (principal : String) (t₀ : Instant) : Prop :=
  c.origin = (s₀.claims principal t₀).origin

theorem stemsFrom_issued (s₀ : Settings) (principal : String) (t₀ : Instant) :
    (s₀.claims principal t₀).StemsFrom s₀ principal t₀ :=
  rfl

namespace StemsFrom

variable {s₀ : Settings} {principal : String} {t₀ e r : Instant}

theorem renewed (h : c.StemsFrom s₀ principal t₀) (av : Availability) (s : Settings)
    (extension : Span) (now : Instant) :
    (c.renewed av s extension now).StemsFrom s₀ principal t₀ :=
  (c.origin_renewed ..).trans h

theorem issuedAt (h : c.StemsFrom s₀ principal t₀) : c.issuedAt = some t₀ :=
  congrArg Claims.issuedAt h

theorem principal_eq (h : c.StemsFrom s₀ principal t₀) : c.principal = some principal :=
  congrArg Claims.principal h

theorem availability (h : c.StemsFrom s₀ principal t₀) :
    c.availability = some (s₀.availability t₀) :=
  congrArg Claims.availability h

theorem claims_sealed (h : c.StemsFrom s₀ principal t₀) (k : Key) : (c.sealed k).claims = c := by
  change c.readBack = c
  rw [readBack, h.availability, Option.map_some, s₀.readBack_availability, ← h.availability]

theorem hasStanding (h : c.StemsFrom s₀ principal t₀) (he : c.expiry = some e)
    (hr : c.refreshDeadline = some r) (k : Key) :
    (c.sealed k).HasStanding ⟨.hs256, t₀, e, r, s₀.availability t₀⟩ := by
  have hp : c.principal ≠ none := by simp [h.principal_eq]
  constructor
  case algorithm => rfl
  case kind      => nofun
  all_goals rw [h.claims_sealed k]
  case issuedAt        => exact h.issuedAt
  case expiry          => exact he
  case principal       => exact hp
  case refreshDeadline => exact hr
  case availability    => exact h.availability

-- What a renewal makes of such a token.
theorem value_renew_iff (h : c.StemsFrom s₀ principal t₀) :
    (s.renew (c.sealed k).encoded extension now).value = .ok new ↔
      (∃ st, (s.renewer.check (c.sealed k) now).value = .ok st ∧
        ¬s.leeway.Elapsed st.refreshDeadline now) ∧
      new = ((c.renewed (s₀.availability t₀) s extension now).sealed s.key).encoded := by
  have ha {st} (hc : (s.renewer.check (c.sealed k) now).value = .ok st) :
      st.availability = s₀.availability t₀ := by
    have hs := (Validator.value_check_eq_ok_iff.mp hc).1.availability
    rw [h.claims_sealed k, h.availability] at hs
    exact (Option.some.inj hs).symm
  rw [Settings.value_renew_eq_ok_iff]
  constructor
  case mp =>
    intro ⟨t, st, ht, hc, he, hn⟩
    obtain rfl := Except.ok.inj <| (c.read_sealed k).symm.trans ht
    rw [h.claims_sealed k, ha hc] at hn
    exact ⟨⟨st, hc, he⟩, hn⟩
  case mpr =>
    intro ⟨⟨st, hc, he⟩, hn⟩
    refine ⟨c.sealed k, st, c.read_sealed k, hc, he, ?_⟩
    rw [h.claims_sealed k, ha hc, hn]

-- It is renewed as long as its refresh window is open, and neither the time of issue nor the
-- ceiling of the first token stands in the way. When it expires does not matter.
theorem value_renew_iff_of_key (h : c.StemsFrom s₀ principal t₀) (he : c.expiry = some e)
    (hr : c.refreshDeadline = some r) (hk : ¬s.key.Empty) :
    (s.renew (c.sealed s.key).encoded extension now).value = .ok new ↔
      (¬s.leeway.Premature t₀ now ∧
        s₀.WithinCeiling t₀.seconds now.seconds s.leeway.tolerance.seconds ∧
        ¬s.leeway.Elapsed r now) ∧
      new = ((c.renewed (s₀.availability t₀) s extension now).sealed s.key).encoded := by
  have hs := h.hasStanding he hr s.key
  have hc {st} : (s.renewer.check (c.sealed s.key) now).value = .ok st ↔
      (c.sealed s.key).HasStanding st ∧ s.renewer.Admits st now := value_check_sealed hk
  rw [h.value_renew_iff, ← Settings.forall_ceiling_iff]
  refine and_congr_left' ⟨?_, ?_⟩
  · intro ⟨st, hc', hr'⟩
    have ⟨hs', hn⟩ := hc.mp hc'
    obtain rfl := hs.unique hs'
    exact ⟨hn.begun, hn.available, hr'⟩
  · intro ⟨hb, ha, hr'⟩
    exact ⟨_, hc.mpr ⟨hs, hb, ha, .inr ⟨rfl, hr'⟩⟩, hr'⟩

end StemsFrom
end Claims
end TokenLifecycle
