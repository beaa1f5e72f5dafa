import TokenLifecycle.Proofs.Token.Renewal

namespace TokenLifecycle

-- The tokens that an issued one gives rise to, by the number of renewals that lie between. Every
-- renewal may be asked for at any time and with settings of its own.
inductive Chain (s₀ : Settings) (principal : String) (t₀ : Instant) : Nat → String → Prop
  | issued {token : String} :
    ((s₀.issue principal t₀).value = .ok token) → Chain s₀ principal t₀ 0 token
  | renewed {old new : String} {s : Settings} {extension : Span} {now : Instant} :
    (Chain s₀ principal t₀ n old) → ((s.renew old extension now).value = .ok new) →
    Chain s₀ principal t₀ (n + 1) new

variable {s₀ s : Settings} {principal token : String} {t₀ now ceiling : Instant} {n : Nat}
variable {c : Claims} {k : Key} {extension : Span}

namespace Claims

-- What the claims of such a token have in common with those of the first one, and what they gain
-- as soon as the token is not the first one itself.
structure Descends (c : Claims) (s₀ : Settings) (principal : String) (t₀ : Instant) (n : Nat) :
    Prop where
  stems   : c.StemsFrom s₀ principal t₀
  clamped : n ≠ 0 → ∃ e r, c.expiry = some ((s₀.availability t₀).clamp e) ∧
              c.refreshDeadline = some ((s₀.availability t₀).clamp r)

theorem descends_issued (s₀ : Settings) (principal : String) (t₀ : Instant) :
    (s₀.claims principal t₀).Descends s₀ principal t₀ 0 where
  stems   := stemsFrom_issued ..
  clamped := fun h => absurd rfl h

theorem Descends.renewed (h : c.Descends s₀ principal t₀ n) (s : Settings) (extension : Span)
    (now : Instant) :
    (c.renewed (s₀.availability t₀) s extension now).Descends s₀ principal t₀ (n + 1) where
  stems     := h.stems.renewed ..
  clamped _ := ⟨_, _, rfl, rfl⟩

end Claims

namespace Chain

-- Whoever renewed it, a token of a chain was sealed, and so is read as what its claims say.
theorem exists_sealed (h : Chain s₀ principal t₀ n token) :
    ∃ (c : Claims) (k : Key), token = (c.sealed k).encoded ∧ c.Descends s₀ principal t₀ n := by
  induction h
  case issued h =>
    have ⟨_, ht⟩ := Settings.value_issue_eq_ok_iff.mp h
    exact ⟨_, _, ht, Claims.descends_issued ..⟩
  case renewed s extension now _ h hi =>
    obtain ⟨c, k, rfl, hd⟩ := hi
    have ⟨_, ht⟩ := hd.stems.value_renew_iff.mp h
    exact ⟨_, _, ht, hd.renewed s extension now⟩

theorem exists_read (h : Chain s₀ principal t₀ n token) :
    ∃ t, AccessToken.read token = .ok t ∧ t.claims.StemsFrom s₀ principal t₀ := by
  obtain ⟨c, k, rfl, hd⟩ := h.exists_sealed
  exact ⟨c.sealed k, c.read_sealed k, (hd.stems.claims_sealed k).symm ▸ hd.stems⟩

end Chain

-- Nothing that has a ceiling is of any use after it, whatever else is said about it.

theorem Validator.exists_value_check_eq_error {v : Validator} {t : AccessToken}
    (ha : t.claims.availability = some (.bounded ceiling)) (he : v.leeway.Elapsed ceiling now) :
    ∃ r, (v.check t now).value = .error r := by
  refine Except.exists_eq_error_of_ne_ok fun st hc => ?_
  have ⟨hs, _, _, hn⟩ := value_check_eq_ok_iff.mp hc
  have hb : st.availability = .bounded ceiling := Option.some.inj <| hs.availability.symm.trans ha
  exact hn.available ceiling hb he

theorem Settings.exists_value_renew_eq_error {t : AccessToken}
    (ht : AccessToken.read token = .ok t) (ha : t.claims.availability = some (.bounded ceiling))
    (he : s.leeway.Elapsed ceiling now) (extension : Span) :
    ∃ e, (s.renew token extension now).value = .error e := by
  refine Except.exists_eq_error_of_ne_ok fun new hn => ?_
  have ⟨t', st, ht', hc, _⟩ := value_renew_eq_ok_iff.mp hn
  obtain rfl := Except.ok.inj <| ht.symm.trans ht'
  have ⟨r, hr⟩ := Validator.exists_value_check_eq_error (v := s.renewer) ha he
  exact nomatch hc.symm.trans hr

namespace Chain

-- The ceiling of the first token of a chain is the ceiling of all of them: no renewal moves it, and
-- no horizon that a renewal sets goes beyond it.
theorem keeps_ceiling (h : Chain s₀ principal t₀ n token) (hw : s₀.availabilityWindow ≠ .zero) :
    ∃ t ceiling, AccessToken.read token = .ok t ∧
      ceiling.seconds = min (t₀.seconds + s₀.availabilityWindow.seconds) maxSeconds ∧
      t.claims.availability = some (.bounded ceiling) ∧
      (n ≠ 0 → ∃ e r, t.claims.expiry = some e ∧ t.claims.refreshDeadline = some r ∧
        e ≤ ceiling ∧ r ≤ ceiling) ∧
      (∀ (v : Validator) (now : Instant),
        ceiling.seconds + v.leeway.tolerance.seconds < now.seconds →
        ∃ r, (v.check t now).value = .error r) ∧
      (∀ (s : Settings) (extension : Span) (now : Instant),
        ceiling.seconds + s.leeway.tolerance.seconds < now.seconds →
        ∃ e, (s.renew token extension now).value = .error e) := by
  obtain ⟨c, k, rfl, hd⟩ := h.exists_sealed
  have hb := hd.stems.claims_sealed k
  have hf := s₀.availability_of_ne_zero hw t₀
  have ha : (c.sealed k).claims.availability = some (.bounded <| t₀ + s₀.availabilityWindow) := by
    rw [hb, hd.stems.availability, hf]
  refine ⟨c.sealed k, t₀ + s₀.availabilityWindow, c.read_sealed k, rfl, ha, ?_, ?_, ?_⟩
  · intro hn
    have ⟨e, r, he, hr⟩ := hd.clamped hn
    rw [hb]
    exact ⟨_, _, he, hr, Availability.seconds_clamp_le hf e, Availability.seconds_clamp_le hf r⟩
  · intro v now he
    exact Validator.exists_value_check_eq_error ha <| Leeway.elapsed_iff.mpr he
  · intro s extension now he
    exact s.exists_value_renew_eq_error (c.read_sealed k) ha (Leeway.elapsed_iff.mpr he) extension

-- Renewed on a clock that was put back, by someone who wants no ceiling and asks for a lot of time.
theorem keeps_ceiling_of_unbounded_renewal :
    let s₀ : Settings := { key := ⟨[0x6b]⟩, availabilityWindow := { seconds := 100 } }
    let s  : Settings := { s₀ with availabilityWindow := .zero }
    let t₀ : Instant  := { seconds := 1000 }
    let now : Instant := { seconds := 995 }
    s₀.availabilityWindow ≠ .zero ∧ ∃ first token, (s₀.issue "alice" t₀).value = .ok first ∧
      (s.renew first { seconds := 3600 } now).value = .ok token ∧ Chain s₀ "alice" t₀ 1 token ∧
      ∃ t e, AccessToken.read token = .ok t ∧ t.claims.expiry = some e ∧ e.seconds ≤ 1100 := by
  intro s₀ s t₀ now
  have hi : (s₀.issue "alice" t₀).value = .ok ((s₀.claims "alice" t₀).sealed s₀.key).encoded :=
    Settings.value_issue_eq_ok_iff.mpr ⟨by decide, rfl⟩
  have hr : (s.renew ((s₀.claims "alice" t₀).sealed s.key).encoded { seconds := 3600 } now).value =
      .ok _ :=
    ((Claims.stemsFrom_issued s₀ "alice" t₀).value_renew_iff_of_key rfl rfl (by decide)).mpr
      ⟨⟨by decide, .inr <| by decide, by decide⟩, rfl⟩
  have hc := (Chain.issued hi).renewed hr
  have ⟨t, ceiling, ht, hs, _, hl, _⟩ := hc.keeps_ceiling (by decide)
  have ⟨e, _, he, _, hle, _⟩ := hl (by decide)
  exact ⟨by decide, _, _, hi, hr, hc, t, e, ht, he, Nat.le_trans hle <| Nat.le_of_eq hs⟩

end Chain
end TokenLifecycle
