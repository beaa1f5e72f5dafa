import TokenLifecycle.Proofs.Token.History
import TokenLifecycle.Proofs.Token.Phases

namespace TokenLifecycle

variable {s : Settings} {token new : String} {extension d : Span} {now : Instant}
variable {t : AccessToken} {st : Standing} {av : Availability}

namespace Availability

-- Moving a horizon to the ceiling is the only thing that can cut it short.
theorem seconds_clamp_add (av : Availability) (now : Instant) (d : Span) :
    (av.clamp (now + d)).seconds = min (now.seconds + d.seconds) av.lastSecond := by
  cases av
  case unbounded       => rfl
  case bounded ceiling =>
    have := ceiling.bound
    simp only [clamp, Instant.seconds_min, Instant.seconds_add, lastSecond]
    omega

end Availability

-- Where the token stands that takes the place of one that stands here.
def Standing.renewed (st : Standing) (s : Settings) (extension : Span) (now : Instant) :
    Standing :=
  { st with
    expiry          := st.availability.clamp (now + extension)
    refreshDeadline := st.availability.clamp (now + s.refreshWindow) }

namespace Settings.Grants

variable (h : s.Grants t st now)

include h

-- A horizon that is counted from now does not lie behind now any further than the ceiling does.
theorem not_elapsed_clamp (d : Span) :
    ¬s.leeway.Elapsed (st.availability.clamp (now + d)) now := by
  have ha := (st.availability.forall_bounded_not_elapsed_iff s.leeway now).mp h.available
  rw [Leeway.elapsed_iff, Availability.seconds_clamp_add]
  omega

-- What takes the place of a token may itself be renewed, right now and under any validator that
-- the token could be presented to.

theorem renewed (extension : Span) (ht : t.claims.readBack = t.claims) :
    s.Grants ((t.claims.renewed st.availability s extension now).sealed s.key)
      (st.renewed s extension now) now where
  standing  := {
    algorithm       := congrArg some h.algorithm.symm
    kind            := nofun
    issuedAt        := h.standing.issuedAt
    expiry          := rfl
    principal       := h.standing.principal
    refreshDeadline := rfl
    availability    :=
      have hc := congrArg Claims.availability ht
      hc.trans h.standing.availability }
  algorithm := h.algorithm
  signed    := (Claims.signedBy_signed_iff ..).mpr ⟨h.signed.usable, rfl⟩
  begun     := h.begun
  available := h.available
  timely    := h.not_elapsed_clamp s.refreshWindow

theorem passes (he : ¬s.leeway.Elapsed st.expiry now) (p : Policy) (approved : List Algorithm) :
    Validator.Passes ⟨s.key, p, s.leeway, approved⟩ t now :=
  have ha := h.algorithm
  ⟨st, Validator.value_check_eq_ok_iff.mpr ⟨h.standing, ha ▸ .head _, ha ▸ h.signed,
    h.begun, h.available, .inl he⟩⟩

end Settings.Grants

namespace Settings

-- Whatever token is renewed, the new one can be read, may be used and exchanged at once, and is
-- exchanged for itself. Its horizons are counted from now, up to the ceiling that it has taken
-- over. That ceiling may lie behind now already, by no more than the leeway.
theorem renew_settles (h : (s.renew token extension now).value = .ok new) :
    ∃ t₀ t av e r, AccessToken.read token = .ok t₀ ∧ AccessToken.read new = .ok t ∧
      (∀ p approved, Validator.Passes ⟨s.key, p, s.leeway, approved⟩ t now) ∧
      (s.renew new extension now).value = .ok new ∧
      t₀.claims.availability = some av ∧ t.claims.availability = some av ∧
      t.claims.expiry = some e ∧ t.claims.refreshDeadline = some r ∧
      e.seconds = min (now.seconds + extension.seconds) av.lastSecond ∧
      r.seconds = min (now.seconds + s.refreshWindow.seconds) av.lastSecond := by
  obtain ⟨t₀, st, ht₀, hg, rfl⟩ := value_renew_eq_ok_iff_grants.mp h
  let c := t₀.claims.renewed st.availability s extension now
  have hb := AccessToken.readBack_claims ht₀
  have hg' : s.Grants (c.sealed s.key) (st.renewed s extension now) now := hg.renewed extension hb
  have hc : (c.sealed s.key).claims = c := Claims.readBack_renewed hb ..
  have hr : (s.renew (c.sealed s.key).encoded extension now).value =
      .ok (c.sealed s.key).encoded := by
    refine value_renew_eq_ok_iff_grants.mpr ⟨_, _, c.read_sealed s.key, hg', ?_⟩
    rw [hc]
    rfl
  exact ⟨t₀, c.sealed s.key, st.availability, _, _, ht₀, c.read_sealed s.key,
    hg'.passes (hg.not_elapsed_clamp extension), hr, hg.standing.availability,
    hg'.standing.availability, hg'.standing.expiry, hg'.standing.refreshDeadline,
    st.availability.seconds_clamp_add now extension,
    st.availability.seconds_clamp_add now s.refreshWindow⟩

-- A token of someone else's, which has expired and is presented before it was issued and after its
-- ceiling has passed. No time is asked for, but the leeway keeps what takes its place alive.
theorem renew_settles_behind_ceiling :
    let s : Settings := { key := ⟨[0x6b]⟩ }
    let c : Claims   := {
      issuedAt        := some { seconds := 1110 }
      expiry          := some { seconds := 5 }
      refreshDeadline := some { seconds := 1200 }
      availability    := some <| .bounded { seconds := 1100 }
      principal       := "alice" }
    let t₀ := c.signed { algorithm := some .hs256, kind := "at+jwt" } .hs256 s.key
    let now : Instant := { seconds := 1105 }
    ∃ new t, (s.renew t₀.encoded .zero now).value = .ok new ∧ AccessToken.read new = .ok t ∧
      (∀ p approved, Validator.Passes ⟨s.key, p, s.leeway, approved⟩ t now) ∧
      (s.renew new .zero now).value = .ok new ∧
      t.claims.expiry = some { seconds := 1100 } := by
  intro s c t₀ now
  have hg : s.Grants t₀ ⟨.hs256, { seconds := 1110 }, { seconds := 5 }, { seconds := 1200 },
      .bounded { seconds := 1100 }⟩ now := {
    standing  := ⟨rfl, nofun, rfl, rfl, nofun, rfl, rfl⟩
    algorithm := rfl
    signed    := (c.signedBy_signed_iff _ _ _ _).mpr ⟨by decide, rfl⟩
    begun     := by decide
    available := (Validator.forall_bounded_iff ..).mpr (by decide)
    timely    := by decide }
  have hn : (s.renew t₀.encoded .zero now).value = .ok _ :=
    value_renew_eq_ok_iff_grants.mpr ⟨t₀, _, c.read_signed .., hg, rfl⟩
  have ⟨t₁, t, av, e, _, ht₁, ht, hp, hr, ha, _, he, _, hs, _⟩ := renew_settles hn
  obtain rfl : t₀ = t₁ := Except.ok.inj <| (c.read_signed ..).symm.trans ht₁
  obtain rfl : .bounded { seconds := 1100 } = av := Option.some.inj ha
  have hs : e = { seconds := 1100 } := Instant.ext hs
  exact ⟨_, t, hn, ht, hp, hr, hs ▸ he⟩

end Settings
end TokenLifecycle
