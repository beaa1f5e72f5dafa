import TokenLifecycle.Proofs.Token.Signing
import TokenLifecycle.Token.Renewal

namespace TokenLifecycle

variable {c : Claims} {k : Key} {s : Settings} {v : Validator} {now t₀ : Instant}

namespace Claims

-- The token of our own that holds the claims, as it is read.
def sealed (c : Claims) (k : Key) : AccessToken :=
  c.signed (.ofAlgorithm .hs256) .hs256 k

theorem read_sealed (c : Claims) (k : Key) :
    AccessToken.read (c.sealed k).encoded = .ok (c.sealed k) :=
  c.read_signed ..

theorem value_seal_eq_ok_iff {token : String} :
    (c.seal k).value = .ok token ↔ ¬k.Empty ∧ token = (c.sealed k).encoded := by
  by_cases hk : k.Empty
  case pos => simp [Claims.seal, c.sign_eq_error _ _ k hk, hk]
  case neg => simp [Claims.seal, c.sign_eq_ok _ _ k hk, hk, sealed, eq_comm]

-- Under the key that it was sealed with, nothing but the time can speak against a token that says
-- all it has to say.
theorem value_check_sealed {st : Standing} (hk : ¬v.key.Empty) :
    (v.check (c.sealed v.key) now).value = .ok st ↔
      (c.sealed v.key).HasStanding st ∧ v.Admits st now := by
  rw [Validator.value_check_eq_ok_iff]
  constructor
  case mp  => exact fun ⟨hs, _, _, hn⟩ => ⟨hs, hn⟩
  case mpr =>
    intro ⟨hs, hn⟩
    have ha : st.algorithm = .hs256 := (Option.some.inj hs.algorithm).symm
    exact ⟨hs, ha ▸ .head _, ha ▸ (c.signedBy_signed_iff _ _ _ _).mpr ⟨hk, rfl⟩, hn⟩

end Claims

namespace Settings

theorem value_issue_eq_ok_iff {principal token : String} :
    (s.issue principal t₀).value = .ok token ↔
      ¬s.key.Empty ∧ token = ((s.claims principal t₀).sealed s.key).encoded := by
  rw [← Claims.value_seal_eq_ok_iff, issue, Logged.value_bind]
  split <;> simp_all

-- Only without a key is there no token.
theorem value_issue_eq_error_iff (s : Settings) (principal : String) (t₀ : Instant) :
    (s.issue principal t₀).value = .error .emptyKey ↔ s.key.Empty := by
  cases hi : (s.issue principal t₀).value
  case error =>
    have hk : ¬¬s.key.Empty := fun hk =>
      nomatch hi.symm.trans <| value_issue_eq_ok_iff.mpr ⟨hk, rfl⟩
    simpa using hk
  case ok token => simp [(value_issue_eq_ok_iff.mp hi).1]

-- The ceiling of a token that was issued at `t₀`.
def availability (s : Settings) (t₀ : Instant) : Availability :=
  .fromWindow t₀ s.availabilityWindow

theorem availability_of_eq_zero (h : s.availabilityWindow = .zero) (t₀ : Instant) :
    s.availability t₀ = .unbounded :=
  if_pos h

theorem availability_of_ne_zero (h : s.availabilityWindow ≠ .zero) (t₀ : Instant) :
    s.availability t₀ = .bounded (t₀ + s.availabilityWindow) :=
  Availability.fromWindow_of_ne_zero h

-- No ceiling that a token is issued with is lost when it is written down.
theorem readBack_availability (s : Settings) (t₀ : Instant) :
    (s.availability t₀).readBack = s.availability t₀ :=
  Availability.readBack_of_ne <| Availability.fromWindow_ne_bounded_epoch _ _

-- Where such a token stands.
def standing (s : Settings) (t₀ : Instant) : Standing where
  algorithm       := .hs256
  issuedAt        := t₀
  expiry          := t₀ + s.expiration
  refreshDeadline := t₀ + s.refreshWindow
  availability    := s.availability t₀

theorem hasStanding_issued (s : Settings) (principal : String) (t₀ : Instant) :
    ((s.claims principal t₀).sealed s.key).HasStanding (s.standing t₀) where
  algorithm       := rfl
  kind            := nofun
  issuedAt        := rfl
  expiry          := rfl
  principal       := nofun
  refreshDeadline := rfl
  availability    := congrArg some <| s.readBack_availability t₀

-- The ceiling, if there is one, has not passed.
def WithinCeiling (s : Settings) (t₀ now leeway : Nat) : Prop :=
  s.availabilityWindow.seconds = 0 ∨ now ≤ t₀ + s.availabilityWindow.seconds + leeway

-- The time at which a token that was issued at `t₀` may be used. All times are in seconds.
structure Usable (s : Settings) (t₀ now leeway : Nat) : Prop where
  begun     : t₀ ≤ now + leeway
  unexpired : now ≤ t₀ + s.expiration.seconds + leeway
  available : s.WithinCeiling t₀ now leeway

-- The time at which it may be exchanged.
structure Exchangeable (s : Settings) (t₀ now leeway : Nat) : Prop where
  begun     : t₀ ≤ now + leeway
  available : s.WithinCeiling t₀ now leeway
  live      : now ≤ t₀ + s.expiration.seconds + leeway ∨
                now ≤ t₀ + s.refreshWindow.seconds + leeway

theorem forall_ceiling_iff (s : Settings) (l : Leeway) (t₀ now : Instant) :
    (∀ ceiling, s.availability t₀ = .bounded ceiling → ¬l.Elapsed ceiling now) ↔
      s.WithinCeiling t₀.seconds now.seconds l.tolerance.seconds := by
  unfold WithinCeiling
  by_cases hw : s.availabilityWindow = .zero
  case pos => simp [s.availability_of_eq_zero hw, hw, Span.zero]
  case neg =>
    simp only [s.availability_of_ne_zero hw, Availability.bounded.injEq, forall_eq',
      Leeway.elapsed_add_iff, Nat.not_lt, mt Span.eq_zero_iff.mpr hw, false_or]

-- Neither the time of issue nor any window is so large that it would change what is admitted.
theorem admits_standing_iff (s : Settings) (v : Validator) (t₀ now : Instant) :
    v.Admits (s.standing t₀) now ↔
      t₀.seconds ≤ now.seconds + v.leeway.tolerance.seconds ∧
      s.WithinCeiling t₀.seconds now.seconds v.leeway.tolerance.seconds ∧
      (now.seconds ≤ t₀.seconds + s.expiration.seconds + v.leeway.tolerance.seconds ∨
        v.policy = .renewable ∧
          now.seconds ≤ t₀.seconds + s.refreshWindow.seconds + v.leeway.tolerance.seconds) := by
  simp only [Validator.Admits.def, standing, forall_ceiling_iff, Leeway.premature_iff,
    Leeway.elapsed_add_iff, Nat.not_lt]

theorem admits_iff_usable (hp : v.policy = .strict) :
    v.Admits (s.standing t₀) now ↔ s.Usable t₀.seconds now.seconds v.leeway.tolerance.seconds := by
  simp only [admits_standing_iff, hp, reduceCtorEq, false_and, or_false]
  exact ⟨fun ⟨hb, ha, hu⟩ => ⟨hb, hu, ha⟩, fun ⟨hb, hu, ha⟩ => ⟨hb, ha, hu⟩⟩

theorem admits_iff_exchangeable (hp : v.policy = .renewable) :
    v.Admits (s.standing t₀) now ↔
      s.Exchangeable t₀.seconds now.seconds v.leeway.tolerance.seconds := by
  simp only [admits_standing_iff, hp, true_and]
  exact ⟨fun ⟨hb, ha, hl⟩ => ⟨hb, ha, hl⟩, fun ⟨hb, ha, hl⟩ => ⟨hb, ha, hl⟩⟩

theorem value_check_issued (hk : ¬s.key.Empty) (hv : v.key = s.key) (principal : String)
    (t₀ now : Instant) :
    (∃ st, (v.check ((s.claims principal t₀).sealed s.key) now).value = .ok st) ↔
      v.Admits (s.standing t₀) now := by
  have hs := s.hasStanding_issued principal t₀
  rw [← hv] at hk hs ⊢
  simp only [Claims.value_check_sealed hk]
  constructor
  case mp  => exact fun ⟨_, hs', hn⟩ => hs.unique hs' ▸ hn
  case mpr => exact fun hn => ⟨_, hs, hn⟩

-- A token that is issued can be read, and passes for exactly as long as the windows say.
theorem issue_lifetime (s : Settings) (hk : ¬s.key.Empty) (principal : String) (l : Leeway)
    (approved : List Algorithm) (t₀ now : Instant) :
    ∃ token t, (s.issue principal t₀).value = .ok token ∧ AccessToken.read token = .ok t ∧
      ((∃ st, (Validator.check ⟨s.key, .strict, l, approved⟩ t now).value = .ok st) ↔
        s.Usable t₀.seconds now.seconds l.tolerance.seconds) ∧
      ((∃ st, (Validator.check ⟨s.key, .renewable, l, approved⟩ t now).value = .ok st) ↔
        s.Exchangeable t₀.seconds now.seconds l.tolerance.seconds) ∧
      ((t.isValid s.key now).value ↔ s.Usable t₀.seconds now.seconds 10) ∧
      ((t.isAvailable s.key now).value ↔ s.Exchangeable t₀.seconds now.seconds 10) := by
  let t := (s.claims principal t₀).sealed s.key
  have hi : (s.issue principal t₀).value = .ok t.encoded := value_issue_eq_ok_iff.mpr ⟨hk, rfl⟩
  have hu (v : Validator) (hv : v.key = s.key) (hp : v.policy = .strict) :=
    (value_check_issued hk hv principal t₀ now).trans (admits_iff_usable hp)
  have he (v : Validator) (hv : v.key = s.key) (hp : v.policy = .renewable) :=
    (value_check_issued hk hv principal t₀ now).trans (admits_iff_exchangeable hp)
  refine ⟨t.encoded, t, hi, Claims.read_sealed .., hu _ rfl rfl, he _ rfl rfl, ?_, ?_⟩
  · exact Validator.value_accepts_iff.trans <| hu { key := s.key, policy := .strict } rfl rfl
  · exact Validator.value_accepts_iff.trans <| he { key := s.key, policy := .renewable } rfl rfl

-- Seconds before the last instant, only the leeway keeps a token usable up to that instant.
theorem issue_lifetime_last_instant :
    let s : Settings  := { key := ⟨[0x6b]⟩, availabilityWindow := { seconds := 1 } }
    let last : Instant := { seconds := maxSeconds }
    ¬s.key.Empty ∧ ∃ token t, (s.issue "alice" (last - Span.mk 5)).value = .ok token ∧
      AccessToken.read token = .ok t ∧ (t.isValid s.key last).value ∧
      ¬∃ st, (Validator.check ⟨s.key, .strict, .strict, []⟩ t last).value = .ok st := by
  intro s last
  have ⟨token, t, hi, hr, hs, _, hv, _⟩ :=
    s.issue_lifetime (by decide) "alice" .strict [] (last - Span.mk 5) last
  refine ⟨by decide, token, t, hi, hr, hv.mpr ⟨by decide, by decide, .inr <| by decide⟩, ?_⟩
  exact fun h => (hs.mp h).available.elim (by decide) (by decide)

end Settings
end TokenLifecycle
