import TokenLifecycle.Directory.Roster
import TokenLifecycle.Gate
import TokenLifecycle.Proofs.Token.Outcome

namespace TokenLifecycle

variable {token : String} {extension : Span} {now : Instant}

-- Claims without a ceiling that put everything else at the epoch, from where the leeway alone
-- carries a token on.
def Claims.atEpoch : Claims where
  issuedAt        := some .epoch
  expiry          := some .epoch
  refreshDeadline := some .epoch
  availability    := some .unbounded
  principal       := some ""

theorem Validator.passes_atEpoch_iff (v : Validator) (hk : ¬v.key.Empty) (now : Instant) :
    (v.under .renewable).Passes (Claims.atEpoch.sealed v.key) now ↔
      now.seconds ≤ v.leeway.tolerance.seconds := by
  have ht : v.Trusts (Claims.atEpoch.sealed v.key) ⟨.hs256, .epoch, .epoch, .epoch, .unbounded⟩ :=
    trusts_sealed hk ⟨rfl, nofun, rfl, rfl, nofun, rfl, rfl⟩
  have := now.bound
  rw [(ht.under .renewable).passes_iff, admits_under_iff]
  simp only [Instant.epoch, Availability.lastSecond, true_and]
  omega

namespace Gate

variable {δ : Type} {g : Gate δ}

-- The renewal is refused because there is no token, or because the token is not available.
def Refuses (g : Gate δ) (token : String) (extension : Span) (now : Instant) : Prop :=
  (∃ e, (g.renew token extension now).value = .error (.token <| .invalid <| .malformed e)) ∨
  (∃ r, (g.renew token extension now).value = .error (.token <| .invalid <| .notAvailable r))

theorem value_renew (g : Gate δ) (token : String) (extension : Span) (now : Instant) :
    (g.renew token extension now).value =
      (g.settings.renew token extension now).value.mapError .token :=
  rfl

-- No other refusal, and no new token, comes of a token that is not available.
theorem refuses_iff :
    g.Refuses token extension now ↔
      ¬∃ t, AccessToken.read token = .ok t ∧ g.settings.renewer.Passes t now := by
  simp only [Refuses, value_renew]
  cases ht : AccessToken.read token
  case error e => simp [Settings.value_renew_of_unreadable ht, Except.mapError]
  case ok t =>
    cases hc : (g.settings.renewer.check t now).value
    case error r =>
      simp [Settings.value_renew_of_rejected ht hc, Except.mapError, Validator.Passes, hc]
    case ok st =>
      by_cases he : g.settings.leeway.Elapsed st.refreshDeadline now
      case pos =>
        simp [Settings.value_renew_of_elapsed ht hc he, Except.mapError, Validator.Passes, hc]
      case neg =>
        have hn : (g.settings.renew token extension now).value = .ok _ :=
          Settings.value_renew_eq_ok_iff.mpr ⟨t, st, ht, hc, he, rfl⟩
        simp [hn, Except.mapError, Validator.Passes, hc]

theorem value_judge_iff {passes : AccessToken → Logged Bool} :
    (judge token passes).value ↔ ∃ t, AccessToken.read token = .ok t ∧ (passes t).value := by
  unfold judge
  split
  case h_1 ht => simp [ht]
  case h_2 ht => simp [ht]

theorem value_isAvailable_iff :
    (g.isAvailable token now).value ↔ ∃ t, AccessToken.read token = .ok t ∧
      Validator.Passes { key := g.settings.key, policy := .renewable } t now := by
  simp only [isAvailable, value_judge_iff, AccessToken.isAvailable, Validator.value_accepts_iff,
    Validator.Passes]

-- The gate as it is with another leeway.
def withLeeway (g : Gate δ) (l : Leeway) : Gate δ :=
  { g with settings := { g.settings with leeway := l } }

theorem isAvailable_iff_not_refuses (g : Gate δ) (token : String) (extension : Span)
    (now : Instant) :
    (g.isAvailable token now).value ↔ ¬(g.withLeeway .standard).Refuses token extension now := by
  rw [value_isAvailable_iff, refuses_iff, not_not]
  rfl

-- A token that was never valid but for the leeway tells one leeway from another.
theorem leeway_eq_standard (hk : ¬g.settings.key.Empty)
    (h : ∀ now,
      let token := (Claims.atEpoch.sealed g.settings.key).encoded
      (g.isAvailable token now).value ↔ ¬g.Refuses token .zero now) :
    g.settings.leeway = .standard := by
  let standard : Validator := { key := g.settings.key, policy := .renewable }
  have hl (now : Instant) :
      now.seconds ≤ 10 ↔ now.seconds ≤ g.settings.leeway.tolerance.seconds := by
    have hn := h now
    simp only [value_isAvailable_iff, refuses_iff, not_not, Claims.read_sealed, Except.ok.injEq,
      exists_eq_left'] at hn
    have hs := standard.passes_atEpoch_iff hk now
    have hr := g.settings.renewer.passes_atEpoch_iff hk now
    exact hs.symm.trans <| hn.trans hr
  have hle := (hl { seconds := 10 }).mp (Nat.le_refl 10)
  have hge := (hl ⟨_, g.settings.leeway.tolerance.bound⟩).mpr (Nat.le_refl _)
  exact Leeway.ext <| Span.ext <| Nat.le_antisymm hge hle

-- Whether a token is available is asked with the standard leeway, and it is renewed with the leeway
-- of the settings. So the answer is good if that is the standard one, and if it is not, then there
-- are tokens for which the answer is wrong. A gate with an empty key takes no token at all.
theorem isAvailable_agrees_iff (g : Gate δ) :
    (∀ token extension now,
      (g.isAvailable token now).value ↔ ¬(g.withLeeway .standard).Refuses token extension now) ∧
    ((∀ token extension now, (g.isAvailable token now).value ↔ ¬g.Refuses token extension now) ↔
      g.settings.key.Empty ∨ g.settings.leeway = .standard) := by
  refine ⟨g.isAvailable_iff_not_refuses, ?_, ?_⟩
  case refine_1 =>
    intro h
    by_cases hk : g.settings.key.Empty
    case pos => exact .inl hk
    case neg => exact .inr <| leeway_eq_standard hk fun now => h _ _ now
  case refine_2 =>
    intro h token extension now
    cases h
    case inl hk =>
      rw [value_isAvailable_iff, refuses_iff, not_not]
      constructor
      case mp  => exact fun ⟨_, _, hp⟩ => absurd hp <| Validator.not_passes_of_empty hk
      case mpr => exact fun ⟨_, _, hp⟩ => absurd hp <| Validator.not_passes_of_empty hk
    case inr hl =>
      have hg : g.withLeeway .standard = g := by rw [withLeeway, ← hl]
      rw [isAvailable_iff_not_refuses, hg]

-- Five seconds after its ceiling a token is said to be available, and is not renewed by a gate that
-- is to allow for no leeway.
theorem isAvailable_disagrees_of_strict :
    let s : Settings := {
      key                := ⟨[0x6b]⟩
      availabilityWindow := { seconds := 100 }
      leeway             := .strict }
    let g : Gate Roster := { directory := .empty, target := "memory", settings := s }
    let token := ((s.claims "alice" { seconds := 1000 }).sealed s.key).encoded
    let now : Instant := { seconds := 1105 }
    ¬((g.isAvailable token now).value ↔ ¬g.Refuses token { seconds := 60 } now) := by
  intro s g token now h
  rw [value_isAvailable_iff, refuses_iff, not_not] at h
  let t := (s.claims "alice" { seconds := 1000 }).sealed s.key
  have ha : Validator.Passes { key := s.key, policy := .renewable } t now :=
    (Settings.value_check_issued (by decide) rfl _ _ _).mpr <|
      (Settings.admits_iff_exchangeable rfl).mpr ⟨by decide, .inr <| by decide, .inl <| by decide⟩
  have ⟨t', ht, hp⟩ := h.mp ⟨t, Claims.read_sealed .., ha⟩
  obtain rfl : t = t' := Except.ok.inj <| (Claims.read_sealed ..).symm.trans ht
  have hn : s.renewer.Admits (s.standing { seconds := 1000 }) now :=
    (Settings.value_check_issued (by decide) rfl _ _ _).mp hp
  have he := (Settings.admits_iff_exchangeable rfl).mp hn
  exact he.available.elim (by decide) (by decide)

end Gate
end TokenLifecycle
