import TokenLifecycle.Proofs.Session.Run
import TokenLifecycle.Proofs.Token.Chain

namespace TokenLifecycle.Session

variable {s s₀ : Session} {ms : List Moment} {m : Moment} {token : String}

-- The token was handed out when a user was let in, or came of it by renewals.
def Moment.Founds (m : Moment) (token : String) : Prop :=
  ∃ identity secret n, m.LetsIn identity secret ∧
    Chain m.session.settings identity m.session.now n token

namespace Run

variable {presented : Presented} {extension : Span} {name? : Option String} {new : String}

-- Only a token that was handed out before is renewed, whether it is presented by its text or by the
-- name under which it is kept.
theorem exists_yields_of_renew (h : Run s₀ ms s)
    (hp : (Step.renew presented extension name?).DrawsOn ms)
    (hn : (s.settings.renew (s.token presented) extension s.now).value = .ok new) :
    ∃ m ∈ ms, m.Yields (s.token presented) := by
  cases presented
  case text token => exact hp
  case kept name  =>
    simp only [Session.token, Std.HashMap.getD_eq_getD_getElem?] at hn ⊢
    cases ht : s.tokens[name]?
    case none =>
      -- Nothing is kept under the name, so it stands for a text that is no token.
      rw [ht] at hn
      have ⟨_, _, hr, _⟩ := Settings.value_renew_eq_ok_iff.mp hn
      exact nomatch AccessToken.read_empty.symm.trans hr
    case some token => exact h.exists_yields_of_getElem? ht

-- A sign-in begins a chain, and a renewal goes on with the chain of the token that is presented.
theorem exists_founds (h : Run s₀ ms s) (hm : m ∈ ms) (hy : m.Yields token) :
    ∃ m' ∈ ms, m'.Founds token := by
  induction h generalizing m token
  case start => cases hm
  case step ms s p hr hp hi =>
    obtain hm | hm := List.mem_append.mp hm
    case inl =>
      have ⟨m', hm', hf⟩ := hi hm hy
      exact ⟨m', List.mem_append_left _ hm', hf⟩
    case inr =>
      obtain rfl := List.mem_singleton.mp hm
      obtain ⟨identity, secret, hl, ht⟩ | ⟨presented, extension, name?, rfl, ht⟩ := hy.elim
      case inl => exact ⟨_, List.mem_append_right _ <| .head _, identity, secret, 0, hl, .issued ht⟩
      case inr =>
        have ⟨m₁, hm₁, hy₁⟩ := hr.exists_yields_of_renew hp ht
        have ⟨m', hm', identity, secret, n, hl, hc⟩ := hi hm₁ hy₁
        exact ⟨m', List.mem_append_left _ hm', identity, secret, n + 1, hl, hc.renewed ht⟩

-- Whoever holds a token was let in at some time, and that is what the token says.
theorem stems_from_signIn {earlier later : List Moment}
    (h : Run s₀ (earlier ++ m :: later) s) (hy : m.Yields token) :
    ∃ m' ∈ earlier ++ [m], ∃ identity secret t, m'.LetsIn identity secret ∧
      AccessToken.read token = .ok t ∧
      t.claims.principal = some identity ∧
      t.claims.issuedAt = some m'.session.now ∧
      t.claims.issuer = m'.session.settings.issuer ∧
      t.claims.audiences = m'.session.settings.audience.toList ∧
      t.claims.subject = m'.session.settings.subject ∧
      t.claims.availability =
        some (.fromWindow m'.session.now m'.session.settings.availabilityWindow) := by
  have ⟨_, hr⟩ : ∃ s', Run s₀ (earlier ++ [m]) s' := of_append (List.append_cons .. ▸ h)
  have ⟨m', hm', identity, secret, _, hl, hc⟩ :=
    hr.exists_founds (List.mem_append_right _ <| .head _) hy
  have ⟨t, ht, hs⟩ := hc.exists_read
  exact ⟨m', hm', identity, secret, t, hl, ht, hs.principal_eq, hs.issuedAt,
    congrArg Claims.issuer hs, congrArg Claims.audiences hs, congrArg Claims.subject hs,
    hs.availability⟩

-- Renewed after the user was removed, under settings that say something else, and on a clock that
-- was put back to before the sign-in.
theorem stems_from_signIn_of_removed_user :
    let s  : Settings := { key := ⟨[0x6b]⟩, availabilityWindow := { seconds := 100 } }
    let s' : Settings := {
      key                := s.key
      issuer             := "elsewhere"
      audience           := none
      availabilityWindow := .zero }
    let s₀ : Session  := {
      roster   := .empty
      settings := s
      target   := "memory"
      clock    := ⟨{ seconds := 1000 }⟩ }
    let ps : List Step := [
      .insert "alice" "wonderland",
      .signIn "alice" "wonderland" none "kept",
      .configure s',
      .remove "alice",
      .move <| .back { seconds := 5 },
      .renew (.kept "kept") { seconds := 3600 } none]
    ∃ ms m s₁ token t, ms.map (·.step) ++ [m.step] = ps ∧ Run s₀ (ms ++ [m]) s₁ ∧
      m.Yields token ∧ AccessToken.read token = .ok t ∧
      t.claims.principal = some "alice" ∧
      t.claims.issuedAt = some { seconds := 1000 } ∧
      t.claims.issuer = s.issuer ∧
      t.claims.audiences = s.audience.toList ∧
      t.claims.availability = some (.bounded { seconds := 1100 }) := by
  intro s s' s₀ ps
  let first := ((s.claims "alice" { seconds := 1000 }).sealed s.key).encoded
  let s₁ : Session := { s₀ with roster := s₀.roster.insert "alice" "wonderland" }
  let s₂ : Session := s₁.keep "kept" (.ok first)
  let s₃ : Session := { s₂ with settings := s' }
  let s₄ : Session := { s₃ with roster := s₃.roster.erase "alice" }
  let s₅ : Session := { s₄ with clock := ⟨{ seconds := 995 }⟩ }
  let m : Moment := ⟨s₅, .renew (.kept "kept") { seconds := 3600 } none⟩
  have hi : (s.issue "alice" { seconds := 1000 }).value = .ok first :=
    Settings.value_issue_eq_ok_iff.mpr ⟨by decide, rfl⟩
  have h₁ : (Moment.mk s₁ <| .signIn "alice" "wonderland" none "kept").Yields first :=
    Moment.yields_signIn_iff.mpr ⟨⟨rfl, Roster.secret?_insert_self⟩, hi⟩
  have hk : s₅.token (.kept "kept") = first := Std.HashMap.getD_insert_self
  have hr : (s'.renew first { seconds := 3600 } { seconds := 995 }).value = .ok _ :=
    ((Claims.stemsFrom_issued s "alice" _).value_renew_iff_of_key rfl rfl (by decide)).mpr
      ⟨⟨by decide, .inr <| by decide, by decide⟩, rfl⟩
  have hy : m.Yields _ := Moment.yields_renew_iff.mpr (hk.symm ▸ hr)
  -- How the first token is written does not matter for the run.
  clear_value first
  have hs : Run s₀ _ s₁ := (start rfl).step (p := .insert "alice" "wonderland") trivial
  have hs := hs.step (p := .signIn "alice" "wonderland" none "kept") trivial
  rw [Moment.next_signIn h₁] at hs
  have hs : Run s₀ _ s₃ := hs.step (p := .configure s') trivial
  have hs : Run s₀ _ s₅ := (hs.step (p := .remove "alice") trivial).step
    (p := .move <| .back { seconds := 5 }) trivial
  have hs := hs.step (p := m.step) trivial
  have ⟨m', hm', identity, secret, t, hl, ht, hp, hi, hc, ha, _, hv⟩ := hs.stems_from_signIn hy
  -- Nobody else ever signed in.
  have ⟨_, _, hl⟩ := hl.asked
  obtain rfl : m' = ⟨s₁, ps[1]⟩ := by
    simp only [List.nil_append, List.cons_append, List.mem_cons, List.not_mem_nil, or_false] at hm'
    obtain rfl | rfl | rfl | rfl | rfl | rfl := hm'
    case inr.inl => rfl
    all_goals cases hl
  obtain rfl : "alice" = identity := (Step.signIn.inj hl).1
  exact ⟨_, m, _, _, t, rfl, hs, hy, ht, hp, hi, hc, ha, hv⟩

end Run
end TokenLifecycle.Session
