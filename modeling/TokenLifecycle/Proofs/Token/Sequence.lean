import TokenLifecycle.Proofs.Token.Renewal

namespace TokenLifecycle

-- What a client asks for when it exchanges its token, and when it does so.
structure Request where
  extension : Span
  now       : Instant

namespace Settings

-- Exchanges the token once for every request. A request that is turned down ends it.
def renewAll (s : Settings) (token : String) (rs : List Request) : Except TokenError String :=
  rs.foldlM (fun token r => (s.renew token r.extension r.now).value) token

-- The time at which a token may be exchanged whose predecessor was exchanged, or which was itself
-- issued, at `prev`. The first token was issued at `t₀`.
structure Follows (s : Settings) (t₀ prev now : Instant) : Prop where
  begun     : t₀.seconds ≤ now.seconds + s.leeway.tolerance.seconds
  timely    : now.seconds ≤ prev.seconds + s.refreshWindow.seconds + s.leeway.tolerance.seconds
  available : s.WithinCeiling t₀.seconds now.seconds s.leeway.tolerance.seconds

-- The last second to which a horizon can be moved.
def limit (s : Settings) (t₀ : Nat) : Nat :=
  if s.availabilityWindow.seconds = 0
  then maxSeconds
  else min (t₀ + s.availabilityWindow.seconds) maxSeconds

-- Nothing here depends on when a token expires.
theorem follows_expiration (s : Settings) (d : Span) :
    { s with expiration := d }.Follows = s.Follows := by
  funext t₀ prev now
  apply propext
  constructor
  case mp  => exact fun ⟨hb, ht, ha⟩ => ⟨hb, ht, ha⟩
  case mpr => exact fun ⟨hb, ht, ha⟩ => ⟨hb, ht, ha⟩

theorem seconds_clamp_add (s : Settings) (t₀ t : Instant) (d : Span) :
    ((s.availability t₀).clamp (t + d)).seconds =
      min (t.seconds + d.seconds) (s.limit t₀.seconds) := by
  unfold limit
  by_cases hw : s.availabilityWindow = .zero
  case pos =>
    rw [if_pos <| Span.eq_zero_iff.mp hw, s.availability_of_eq_zero hw]
    rfl
  case neg =>
    rw [if_neg <| mt Span.eq_zero_iff.mpr hw, s.availability_of_ne_zero hw]
    simp only [Availability.clamp, Instant.seconds_min, Instant.seconds_add]
    omega

end Settings

namespace Claims

variable {s : Settings} {c : Claims} {principal new : String} {t₀ prev now : Instant}
variable {extension : Span}

-- The claims of a token that goes back to one issued at `t₀`, and whose horizons were counted from
-- `prev`. Only the refresh deadline of the first token may lie beyond the ceiling.
structure HeldSince (c : Claims) (s : Settings) (principal : String) (t₀ prev : Instant) :
    Prop where
  stems           : c.StemsFrom s principal t₀
  expiry          : ∃ e, c.expiry = some e
  refreshDeadline : ∃ r, c.refreshDeadline = some r ∧
    (r = prev + s.refreshWindow ∨ r = (s.availability t₀).clamp (prev + s.refreshWindow))

theorem heldSince_issued (s : Settings) (principal : String) (t₀ : Instant) :
    (s.claims principal t₀).HeldSince s principal t₀ t₀ where
  stems           := stemsFrom_issued ..
  expiry          := ⟨_, rfl⟩
  refreshDeadline := ⟨_, rfl, .inl rfl⟩

namespace HeldSince

theorem renewed (h : c.HeldSince s principal t₀ prev) (extension : Span) (now : Instant) :
    (c.renewed (s.availability t₀) s extension now).HeldSince s principal t₀ now where
  stems           := h.stems.renewed ..
  expiry          := ⟨_, rfl⟩
  refreshDeadline := ⟨_, rfl, .inr rfl⟩

-- The ceiling is looked at anyway, so it does not matter whether the deadline was moved to it.
theorem elapsed_iff {r : Instant}
    (ha : s.WithinCeiling t₀.seconds now.seconds s.leeway.tolerance.seconds)
    (hr : r = prev + s.refreshWindow ∨ r = (s.availability t₀).clamp (prev + s.refreshWindow)) :
    s.leeway.Elapsed r now ↔
      prev.seconds + s.refreshWindow.seconds + s.leeway.tolerance.seconds < now.seconds := by
  cases hr
  case inl hr => rw [hr, Leeway.elapsed_add_iff]
  case inr hr =>
    have hl : now.seconds ≤ s.limit t₀.seconds + s.leeway.tolerance.seconds := by
      have := now.bound
      unfold Settings.WithinCeiling at ha
      unfold Settings.limit
      split <;> omega
    rw [hr, Leeway.elapsed_iff, s.seconds_clamp_add]
    omega

theorem value_renew_iff (h : c.HeldSince s principal t₀ prev) (hk : ¬s.key.Empty) :
    (s.renew (c.sealed s.key).encoded extension now).value = .ok new ↔
      s.Follows t₀ prev now ∧
      new = ((c.renewed (s.availability t₀) s extension now).sealed s.key).encoded := by
  have ⟨e, he⟩ := h.expiry
  have ⟨r, hr, hp⟩ := h.refreshDeadline
  rw [h.stems.value_renew_iff_of_key he hr hk, Leeway.premature_iff, Nat.not_lt]
  refine and_congr_left' ⟨?_, ?_⟩
  · intro ⟨hb, ha, ht⟩
    rw [elapsed_iff ha hp, Nat.not_lt] at ht
    exact ⟨hb, ht, ha⟩
  · intro ⟨hb, ht, ha⟩
    rw [elapsed_iff ha hp, Nat.not_lt]
    exact ⟨hb, ha, ht⟩

end HeldSince

-- What the claims become when every request is granted.
def renewedAll (c : Claims) (s : Settings) (t₀ : Instant) (rs : List Request) : Claims :=
  rs.foldl (fun c r => c.renewed (s.availability t₀) s r.extension r.now) c

theorem StemsFrom.renewedAll (h : c.StemsFrom s principal t₀) (rs : List Request) :
    (c.renewedAll s t₀ rs).StemsFrom s principal t₀ := by
  induction rs generalizing c
  case nil          => exact h
  case cons r rs hi => exact hi (h.renewed ..)

-- All requests are granted if each of them follows in time on the one before it.
theorem HeldSince.renewAll_iff (h : c.HeldSince s principal t₀ prev) (hk : ¬s.key.Empty)
    (rs : List Request) :
    s.renewAll (c.sealed s.key).encoded rs = .ok new ↔
      (prev :: rs.map Request.now).IsChain (s.Follows t₀) ∧
      new = ((c.renewedAll s t₀ rs).sealed s.key).encoded := by
  induction rs generalizing c prev
  case nil =>
    have hc : [prev].IsChain (s.Follows t₀) := .singleton prev
    simp only [Settings.renewAll, List.foldlM_nil, List.map_nil, hc, true_and]
    exact ⟨fun he => (Except.ok.inj he).symm, congrArg Except.ok ∘ Eq.symm⟩
  case cons r rs hi =>
    have hi := hi (h.renewed r.extension r.now)
    simp only [Settings.renewAll, List.foldlM_cons, Except.bind_eq_ok_iff] at hi ⊢
    simp only [h.value_renew_iff hk, List.map_cons, List.isChain_cons_cons]
    constructor
    case mp =>
      rintro ⟨_, ⟨hf, rfl⟩, hs⟩
      have ⟨hc, hn⟩ := hi.mp hs
      exact ⟨⟨hf, hc⟩, hn⟩
    case mpr =>
      intro ⟨⟨hf, hc⟩, hn⟩
      exact ⟨_, ⟨hf, rfl⟩, hi.mpr ⟨hc, hn⟩⟩

-- The horizons are those that the last request moved.
theorem horizons_renewedAll {r : Request} {rs : List Request} (c : Claims) (s : Settings)
    (t₀ : Instant) (hr : rs.getLast? = some r) :
    ∃ e d, (c.renewedAll s t₀ rs).expiry = some e ∧
      (c.renewedAll s t₀ rs).refreshDeadline = some d ∧
      e.seconds = min (r.now.seconds + r.extension.seconds) (s.limit t₀.seconds) ∧
      d.seconds = min (r.now.seconds + s.refreshWindow.seconds) (s.limit t₀.seconds) := by
  obtain ⟨rs, rfl⟩ := List.getLast?_eq_some_iff.mp hr
  simp only [renewedAll, List.foldl_append, List.foldl_cons, List.foldl_nil]
  exact ⟨_, _, rfl, rfl, s.seconds_clamp_add .., s.seconds_clamp_add ..⟩

end Claims

namespace Settings

theorem exists_renewAll_issued_iff {s : Settings} (hk : ¬s.key.Empty) (principal : String)
    (t₀ : Instant) (rs : List Request) :
    (∃ token, s.renewAll ((s.claims principal t₀).sealed s.key).encoded rs = .ok token) ↔
      (t₀ :: rs.map Request.now).IsChain (s.Follows t₀) := by
  simp only [(Claims.heldSince_issued s principal t₀).renewAll_iff hk]
  constructor
  case mp  => exact fun ⟨_, hc, _⟩ => hc
  case mpr => exact fun hc => ⟨_, hc, rfl⟩

-- Whether a token can be exchanged again and again is a matter of when that is tried, and of
-- neither the expiry of a token nor the time that is asked for. What comes of it depends on the
-- last request alone.
theorem issue_renewAll (s : Settings) (hk : ¬s.key.Empty) (principal : String) (t₀ : Instant)
    (rs : List Request) :
    ∃ first, (s.issue principal t₀).value = .ok first ∧
      ((∃ token, s.renewAll first rs = .ok token) ↔
        (t₀ :: rs.map Request.now).IsChain (s.Follows t₀)) ∧
      (∀ (d : Span) (rs' : List Request), rs'.map Request.now = rs.map Request.now →
        ∃ first', ({ s with expiration := d }.issue principal t₀).value = .ok first' ∧
          ((∃ token, { s with expiration := d }.renewAll first' rs' = .ok token) ↔
            ∃ token, s.renewAll first rs = .ok token)) ∧
      ∀ token r, s.renewAll first rs = .ok token → rs.getLast? = some r →
        ∃ t e d, AccessToken.read token = .ok t ∧ t.claims.issuedAt = some t₀ ∧
          t.claims.expiry = some e ∧ t.claims.refreshDeadline = some d ∧
          e.seconds = min (r.now.seconds + r.extension.seconds) (s.limit t₀.seconds) ∧
          d.seconds = min (r.now.seconds + s.refreshWindow.seconds) (s.limit t₀.seconds) := by
  have hs := exists_renewAll_issued_iff hk principal t₀ rs
  refine ⟨_, value_issue_eq_ok_iff.mpr ⟨hk, rfl⟩, hs, ?_, ?_⟩
  · intro d rs' hn
    let s' : Settings := { s with expiration := d }
    have hs' := exists_renewAll_issued_iff (s := s') hk principal t₀ rs'
    rw [hn, follows_expiration] at hs'
    exact ⟨_, value_issue_eq_ok_iff.mpr ⟨hk, rfl⟩, hs'.trans hs.symm⟩
  · intro token r ht hr
    have hh := Claims.heldSince_issued s principal t₀
    obtain ⟨_, rfl⟩ := (hh.renewAll_iff hk rs).mp ht
    have hc := hh.stems.renewedAll rs
    have ⟨e, d, he, hd, hes, hds⟩ := Claims.horizons_renewedAll (s.claims principal t₀) s t₀ hr
    refine ⟨_, e, d, Claims.read_sealed .., ?_, ?_, ?_, hes, hds⟩
    all_goals rw [hc.claims_sealed s.key]
    · exact hc.issuedAt
    · exact he
    · exact hd

-- Twice a token is just saved by the leeway, from its refresh deadline and then from the ceiling,
-- and at last it is exchanged before it was issued.
theorem issue_renewAll_within_leeway :
    let s : Settings := {
      key                := ⟨[0x6b]⟩
      refreshWindow      := { seconds := 60 }
      availabilityWindow := { seconds := 100 } }
    let rs : List Request := [
      ⟨{ seconds := 300 }, { seconds := 1065 }⟩,
      ⟨.zero, { seconds := 1108 }⟩,
      ⟨{ seconds := 5 }, { seconds := 990 }⟩]
    ¬s.key.Empty ∧ ∃ first token t e d, (s.issue "alice" { seconds := 1000 }).value = .ok first ∧
      s.renewAll first rs = .ok token ∧ rs.getLast? = some ⟨{ seconds := 5 }, { seconds := 990 }⟩ ∧
      AccessToken.read token = .ok t ∧ t.claims.expiry = some e ∧
      t.claims.refreshDeadline = some d ∧ e.seconds = 995 ∧ d.seconds = 1050 := by
  intro s rs
  have ⟨first, hi, hs, _, hl⟩ := s.issue_renewAll (by decide) "alice" { seconds := 1000 } rs
  have ⟨token, ht⟩ := hs.mpr <| .cons_cons ⟨by decide, by decide, .inr <| by decide⟩ <|
    .cons_cons ⟨by decide, by decide, .inr <| by decide⟩ <|
    .cons_cons ⟨by decide, by decide, .inr <| by decide⟩ <| .singleton _
  have ⟨t, e, d, hr, _, he, hd, hes, hds⟩ := hl token _ ht rfl
  exact ⟨by decide, first, token, t, e, d, hi, ht, rfl, hr, he, hd, hes, hds⟩

end Settings
end TokenLifecycle
