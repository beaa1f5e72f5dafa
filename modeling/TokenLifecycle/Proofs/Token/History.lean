import TokenLifecycle.Proofs.Token.Reading
import TokenLifecycle.Proofs.Token.Sequence

namespace TokenLifecycle

variable {c c₁ c₂ : Claims} {s s₁ s₂ : Settings} {now : Instant} {extension : Span}
variable {token token₁ token₂ new new₁ new₂ : String} {t t₁ t₂ : AccessToken}

namespace Claims

-- What a renewal makes of claims depends on nothing but their origin.
theorem renewed_congr (hc : c₁.origin = c₂.origin) (hw : s₁.refreshWindow = s₂.refreshWindow)
    (av : Availability) (extension : Span) (now : Instant) :
    c₁.renewed av s₁ extension now = c₂.renewed av s₂ extension now :=
  calc
    c₁.renewed av s₁ extension now
    _ = c₁.origin.renewed av s₁ extension now := rfl
    _ = c₂.origin.renewed av s₂ extension now := by simp only [hc, renewed, hw]
    _ = c₂.renewed av s₂ extension now        := rfl

theorem readBack_renewed (h : c.readBack = c) (av : Availability) (s : Settings)
    (extension : Span) (now : Instant) :
    (c.renewed av s extension now).readBack = c.renewed av s extension now := by
  have ha : c.availability.map .readBack = c.availability := congrArg Claims.availability h
  simp only [readBack, renewed, ha]

end Claims

namespace Settings

-- Whatever token was exchanged, the new one is one of our own.
theorem exists_sealed_of_renew (h : (s.renew token extension now).value = .ok new) :
    ∃ t av, AccessToken.read token = .ok t ∧ t.claims.availability = some av ∧
      new = ((t.claims.renewed av s extension now).sealed s.key).encoded := by
  have ⟨t, st, ht, hc, _, hn⟩ := value_renew_eq_ok_iff.mp h
  have ha := (Validator.value_check_eq_ok_iff.mp hc).1.availability
  exact ⟨t, st.availability, ht, ha, hn⟩

theorem renew_congr (ht₁ : AccessToken.read token₁ = .ok t₁)
    (ht₂ : AccessToken.read token₂ = .ok t₂) (ho : t₁.claims.origin = t₂.claims.origin)
    (hk : s₁.key = s₂.key) (hw : s₁.refreshWindow = s₂.refreshWindow)
    (h₁ : (s₁.renew token₁ extension now).value = .ok new₁)
    (h₂ : (s₂.renew token₂ extension now).value = .ok new₂) : new₁ = new₂ := by
  obtain ⟨_, av₁, hr₁, ha₁, rfl⟩ := exists_sealed_of_renew h₁
  obtain ⟨_, av₂, hr₂, ha₂, rfl⟩ := exists_sealed_of_renew h₂
  cases hr₁.symm.trans ht₁
  cases hr₂.symm.trans ht₂
  have ha : some av₁ = some av₂ :=
    ha₁.symm.trans <| (congrArg Claims.availability ho).trans ha₂
  cases ha
  rw [Claims.renewed_congr ho hw, hk]

-- A renewal hands on where a token comes from, even if the token is not one of our own.
theorem origin_of_renew (h : (s.renew token extension now).value = .ok new) :
    ∃ t t', AccessToken.read token = .ok t ∧ AccessToken.read new = .ok t' ∧
      t'.claims.origin = t.claims.origin := by
  obtain ⟨t, av, ht, _, rfl⟩ := exists_sealed_of_renew h
  have hc := Claims.readBack_renewed (AccessToken.readBack_claims ht) av s extension now
  refine ⟨t, _, ht, Claims.read_sealed .., ?_⟩
  exact (congrArg Claims.origin hc).trans <| t.claims.origin_renewed ..

end Settings

-- An exchange of a token: what is asked for, and the settings under which it may be granted.
structure Exchange extends Request where
  settings : Settings

namespace Exchange

variable {x : Exchange} {xs : List Exchange} {first last : String}

def grant (x : Exchange) (token : String) : Except TokenError String :=
  (x.settings.renew token x.extension x.now).value

theorem grant_eq (x : Exchange) (token : String) :
    x.grant token = (x.settings.renew token x.extension x.now).value :=
  rfl

theorem grant_eq_ok_iff :
    x.grant token = .ok new ↔
      ∃ t st, AccessToken.read token = .ok t ∧ x.settings.Grants t st x.now ∧
        new = ((t.claims.renewed st.availability x.settings x.extension x.now).sealed
          x.settings.key).encoded :=
  Settings.value_renew_eq_ok_iff_grants

-- One exchange after the other, each of the token that came of the one before it.
def grantAll (xs : List Exchange) (token : String) : Except TokenError String :=
  xs.foldlM (fun token x => x.grant token) token

theorem grantAll_cons_eq_ok_iff :
    grantAll (x :: xs) first = .ok last ↔
      ∃ token, x.grant first = .ok token ∧ grantAll xs token = .ok last := by
  simp only [grantAll, List.foldlM_cons, Except.bind_eq_ok_iff]

theorem grantAll_concat_eq_ok_iff :
    grantAll (xs ++ [x]) first = .ok last ↔
      ∃ token, grantAll xs first = .ok token ∧ x.grant token = .ok last := by
  simp only [grantAll, List.foldlM_append, List.foldlM_cons, List.foldlM_nil, bind_pure,
    Except.bind_eq_ok_iff]

theorem origin_grantAll (ht : AccessToken.read first = .ok t) (h : grantAll xs first = .ok last) :
    ∃ t', AccessToken.read last = .ok t' ∧ t'.claims.origin = t.claims.origin := by
  induction xs generalizing first t
  case nil =>
    cases h
    exact ⟨t, ht, rfl⟩
  case cons x xs hi =>
    have ⟨token, hx, h⟩ := grantAll_cons_eq_ok_iff.mp h
    have ⟨t₁, t₂, ht₁, ht₂, ho⟩ := Settings.origin_of_renew hx
    cases ht.symm.trans ht₁
    have ⟨t', ht', ho'⟩ := hi ht₂ h
    exact ⟨t', ht', ho'.trans ho⟩

-- Two tokens that say the same about where they come from are exchanged for the very same token,
-- however they are written, whatever their horizons, and under whatever settings with the same key
-- and refresh window. So a token that was exchanged again and again is the one that the last
-- exchange would have made of the first token.
theorem grant_forgets_history :
    (∀ (s₁ s₂ : Settings) (extension : Span) (now : Instant) (token₁ token₂ new₁ new₂ : String)
        (t₁ t₂ : AccessToken),
      AccessToken.read token₁ = .ok t₁ → AccessToken.read token₂ = .ok t₂ →
      t₁.claims.origin = t₂.claims.origin →
      s₁.key = s₂.key → s₁.refreshWindow = s₂.refreshWindow →
      (s₁.renew token₁ extension now).value = .ok new₁ →
      (s₂.renew token₂ extension now).value = .ok new₂ →
      new₁ = new₂ ∧ ∃ t, AccessToken.read new₁ = .ok t ∧
        t.header = { algorithm := some .hs256, kind := some "JWT" }) ∧
    ∀ (xs : List Exchange) (x : Exchange) (first last direct : String),
      grantAll xs first = .ok last → xs.getLast? = some x → x.grant first = .ok direct →
      last = direct := by
  constructor
  · intro s₁ s₂ extension now token₁ token₂ new₁ new₂ t₁ t₂ ht₁ ht₂ ho hk hw h₁ h₂
    have ⟨_, _, _, _, hn⟩ := Settings.exists_sealed_of_renew h₁
    refine ⟨Settings.renew_congr ht₁ ht₂ ho hk hw h₁ h₂, ?_⟩
    exact ⟨_, hn ▸ Claims.read_sealed .., rfl⟩
  · intro xs x first last direct h hx hd
    obtain ⟨xs, rfl⟩ := List.getLast?_eq_some_iff.mp hx
    have ⟨token, hs, hl⟩ := grantAll_concat_eq_ok_iff.mp h
    have ⟨t, _, ht, _⟩ := Settings.origin_of_renew hd
    have ⟨t', ht', ho⟩ := origin_grantAll ht hs
    exact Settings.renew_congr ht' ht ho rfl rfl hl hd

-- A token with a foreign header that expires long after its ceiling, and one of our own that has
-- expired. The first of them is also exchanged twice, the second time on a clock that was put back.
theorem grant_forgets_history_of_foreign_token :
    let k : Key := ⟨[0x6b]⟩
    let c : Claims := {
      issuer          := "elsewhere"
      audiences       := ["a", "b"]
      issuedAt        := some { seconds := 1000 }
      expiry          := some { seconds := 9000 }
      refreshDeadline := some { seconds := 2000 }
      availability    := some <| .bounded { seconds := 5000 }
      principal       := "alice" }
    let c' : Claims  := { c with
      expiry          := some { seconds := 1010 }
      refreshDeadline := some { seconds := 1200 } }
    let token₁ := (c.signed { algorithm := some .hs256, kind := "at+jwt" } .hs256 k).encoded
    let token₂ := (c'.sealed k).encoded
    let s₁ : Settings := { key := k }
    let s₂ : Settings := {
      key                := k
      issuer             := none
      availabilityWindow := .zero
      leeway             := .strict }
    let x₁ : Exchange := ⟨⟨{ seconds := 60 }, { seconds := 1200 }⟩, s₁⟩
    let x₂ : Exchange := ⟨⟨{ seconds := 30 }, { seconds := 1100 }⟩, s₂⟩
    ∃ new last, x₁.grant token₁ = .ok new ∧
      (s₂.renew token₂ x₁.extension x₁.now).value = .ok new ∧
      grantAll [x₁, x₂] token₁ = .ok last ∧ x₂.grant token₁ = .ok last := by
  intro k c c' token₁ token₂ s₁ s₂ x₁ x₂
  let standing (e r : Instant) : Standing :=
    ⟨.hs256, { seconds := 1000 }, e, r, .bounded { seconds := 5000 }⟩
  have signed (c : Claims) (h : Header) : (c.signed h .hs256 k).SignedBy k .hs256 :=
    (c.signedBy_signed_iff _ _ _ _).mpr ⟨by decide, rfl⟩
  have within {l : Leeway} {now : Instant} :=
    (Validator.forall_bounded_iff (.bounded { seconds := 5000 }) l now).mpr
  obtain ⟨t₁, ht₁, hc₁, hs₁, hk₁⟩ : ∃ t, AccessToken.read token₁ = .ok t ∧ t.claims = c ∧
      t.HasStanding (standing { seconds := 9000 } { seconds := 2000 }) ∧ t.SignedBy k .hs256 :=
    ⟨_, Claims.read_signed .., rfl, ⟨rfl, nofun, rfl, rfl, nofun, rfl, rfl⟩, signed ..⟩
  obtain ⟨t₂, ht₂, hc₂, hs₂, hk₂⟩ : ∃ t, AccessToken.read token₂ = .ok t ∧ t.claims = c' ∧
      t.HasStanding (standing { seconds := 1010 } { seconds := 1200 }) ∧ t.SignedBy k .hs256 :=
    ⟨_, Claims.read_sealed .., rfl, ⟨rfl, nofun, rfl, rfl, nofun, rfl, rfl⟩, signed ..⟩
  let token₃ := ((c.renewed (.bounded { seconds := 5000 }) s₁ x₁.extension x₁.now).sealed k).encoded
  obtain ⟨t₃, e, r, ht₃, hs₃, hk₃, hr⟩ : ∃ t e r, AccessToken.read token₃ = .ok t ∧
      t.HasStanding (standing e r) ∧ t.SignedBy k .hs256 ∧ ¬s₂.leeway.Elapsed r x₂.now :=
    ⟨_, _, _, Claims.read_sealed .., ⟨rfl, nofun, rfl, rfl, nofun, rfl, rfl⟩, signed .., by decide⟩
  have h₁ : x₁.grant token₁ = .ok token₃ := grant_eq_ok_iff.mpr ⟨t₁, _, ht₁,
    ⟨hs₁, rfl, hk₁, by decide, within (by decide), by decide⟩, by rw [hc₁]⟩
  have hb : ¬s₂.leeway.Premature { seconds := 1000 } x₂.now := by decide
  -- From here on it does not matter any more how the tokens are written.
  clear_value token₁ token₂ token₃
  have h₂ : (s₂.renew token₂ x₁.extension x₁.now).value = .ok _ :=
    Settings.value_renew_eq_ok_iff_grants.mpr ⟨t₂, _, ht₂,
      ⟨hs₂, rfl, hk₂, by decide, within (by decide), by decide⟩, rfl⟩
  have h₃ := grant_eq_ok_iff (x := x₂).mpr ⟨t₃, _, ht₃,
    ⟨hs₃, rfl, hk₃, hb, within (by decide), hr⟩, rfl⟩
  have hd := grant_eq_ok_iff (x := x₂).mpr ⟨t₁, _, ht₁,
    ⟨hs₁, rfl, hk₁, by decide, within (by decide), by decide⟩, rfl⟩
  have hc : grantAll [x₁, x₂] token₁ = .ok _ :=
    grantAll_cons_eq_ok_iff.mpr ⟨_, h₁, grantAll_cons_eq_ok_iff.mpr ⟨_, h₃, rfl⟩⟩
  have ho : t₁.claims.origin = t₂.claims.origin := by rw [hc₁, hc₂]; rfl
  have hn := (grant_forgets_history.1 x₁.settings s₂ _ _ _ _ _ _ _ _ ht₁ ht₂ ho rfl rfl
    ((grant_eq ..).symm.trans h₁) h₂).1
  have hl := grant_forgets_history.2 _ _ _ _ _ hc rfl hd
  exact ⟨_, _, h₁, h₂.trans (congrArg Except.ok hn.symm), hc, hd.trans (congrArg Except.ok hl.symm)⟩

end Exchange
end TokenLifecycle
