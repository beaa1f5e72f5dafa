import TokenLifecycle.Proofs.Token.Issuance

namespace TokenLifecycle

-- What a token is good for as time goes by, in the order in which that changes. A token need not
-- go through all of the phases.
inductive Phase where
  | early
  | usable
  | exchangeable
  | spent
deriving DecidableEq

namespace Phase

variable {p p₁ p₂ p₃ : Phase}

def rank : Phase → Nat
  | early        => 0
  | usable       => 1
  | exchangeable => 2
  | spent        => 3

instance : LE Phase where
  le p₁ p₂ := p₁.rank ≤ p₂.rank

instance : DecidableLE Phase :=
  fun p₁ p₂ => inferInstanceAs (Decidable (p₁.rank ≤ p₂.rank))

-- Whether the token may be used, and whether it may be exchanged.
def answers : Phase → Bool × Bool
  | early        => (false, false)
  | usable       => (true, true)
  | exchangeable => (false, true)
  | spent        => (false, false)

theorem le_iff : p₁ ≤ p₂ ↔ p₁.rank ≤ p₂.rank :=
  .rfl

theorem answers_fst_iff : p.answers.1 ↔ p.rank = 1 := by
  cases p <;> decide

theorem answers_snd_iff : p.answers.2 ↔ 1 ≤ p.rank ∧ p.rank ≤ 2 := by
  cases p <;> decide

theorem exchangeable_of_usable (h : p.answers.1) : p.answers.2 := by
  rw [answers_fst_iff] at h
  rw [answers_snd_iff]
  omega

theorem usable_of_between (h₁₂ : p₁ ≤ p₂) (h₂₃ : p₂ ≤ p₃) (h₁ : p₁.answers.1) (h₃ : p₃.answers.1) :
    p₂.answers.1 := by
  rw [le_iff] at h₁₂ h₂₃
  rw [answers_fst_iff] at h₁ h₃ ⊢
  omega

theorem exchangeable_of_between (h₁₂ : p₁ ≤ p₂) (h₂₃ : p₂ ≤ p₃) (h₁ : p₁.answers.2)
    (h₃ : p₃.answers.2) : p₂.answers.2 := by
  rw [le_iff] at h₁₂ h₂₃
  rw [answers_snd_iff] at h₁ h₃ ⊢
  omega

-- What is exchangeable and will be usable is usable already.
theorem usable_of_le (h : p₁ ≤ p₂) (h₁ : p₁.answers.2) (h₂ : p₂.answers.1) : p₁.answers.1 := by
  rw [le_iff] at h
  rw [answers_snd_iff] at h₁
  rw [answers_fst_iff] at h₂ ⊢
  omega

end Phase

-- The seconds at which the phases of a token begin, after the one that it has first. A phase that
-- begins no sooner than the next one is left out.
structure Lifespan where
  start           : Nat
  expiry          : Nat
  close           : Nat
  start_le_expiry : start ≤ expiry
  expiry_le_close : expiry ≤ close

namespace Lifespan

variable {lf : Lifespan} {t₁ t₂ now : Instant}

-- The lifespan of a token that is never good for anything.
def never : Lifespan where
  start           := 0
  expiry          := 0
  close           := 0
  start_le_expiry := Nat.le_refl 0
  expiry_le_close := Nat.le_refl 0

def phase (lf : Lifespan) (now : Instant) : Phase :=
  if now.seconds < lf.start then .early
  else if now.seconds < lf.expiry then .usable
  else if now.seconds < lf.close then .exchangeable
  else .spent

theorem phase_never (now : Instant) : never.phase now = .spent := by
  simp [phase, never]

theorem phase_mono (lf : Lifespan) (h : t₁ ≤ t₂) : lf.phase t₁ ≤ lf.phase t₂ := by
  rw [Instant.le_iff] at h
  simp only [phase, Phase.le_iff]
  repeat' split
  all_goals simp only [Phase.rank]; omega

theorem usable_iff :
    (lf.phase now).answers.1 ↔ lf.start ≤ now.seconds ∧ now.seconds < lf.expiry := by
  rw [Phase.answers_fst_iff]
  unfold phase
  repeat' split
  all_goals simp only [Phase.rank, reduceCtorEq, Nat.reduceEqDiff, true_iff, false_iff]; omega

theorem exchangeable_iff :
    (lf.phase now).answers.2 ↔ lf.start ≤ now.seconds ∧ now.seconds < lf.close := by
  have := lf.start_le_expiry
  have := lf.expiry_le_close
  rw [Phase.answers_snd_iff]
  unfold phase
  repeat' split
  all_goals simp only [Phase.rank]; omega

end Lifespan

-- The last second at which a ceiling does not stand in the way.
def Availability.lastSecond : Availability → Nat
  | unbounded       => maxSeconds
  | bounded ceiling => ceiling.seconds

theorem Availability.forall_bounded_not_elapsed_iff (av : Availability) (l : Leeway)
    (now : Instant) :
    (∀ ceiling, av = bounded ceiling → ¬l.Elapsed ceiling now) ↔
      now.seconds ≤ av.lastSecond + l.tolerance.seconds := by
  cases av
  case unbounded =>
    have := now.bound
    simp only [reduceCtorEq, false_imp_iff, implies_true, lastSecond, true_iff]
    omega
  case bounded ceiling =>
    simp only [bounded.injEq, forall_eq', Leeway.elapsed_iff, Nat.not_lt, lastSecond]

-- The lifespan of a token that stands here, if nothing but the time speaks against it. The horizons
-- may come in any order. A token that would expire or close before it starts never does start.
def Standing.lifespan (s : Standing) (l : Leeway) : Lifespan where
  start           := s.issuedAt.seconds - l.tolerance.seconds
  expiry          := max (s.issuedAt.seconds - l.tolerance.seconds)
                       (min s.expiry.seconds s.availability.lastSecond + l.tolerance.seconds + 1)
  close           := max (s.issuedAt.seconds - l.tolerance.seconds)
                       (min (max s.expiry.seconds s.refreshDeadline.seconds)
                         s.availability.lastSecond + l.tolerance.seconds + 1)
  start_le_expiry := Nat.le_max_left ..
  expiry_le_close := by omega

namespace Validator

variable {v : Validator} {t : AccessToken} {s : Standing} {now : Instant}

-- The validator as it is when tokens are judged for something else.
def under (v : Validator) (p : Policy) : Validator :=
  { v with policy := p }

-- The token passes, whatever comes of it.
def Passes (v : Validator) (t : AccessToken) (now : Instant) : Prop :=
  ∃ s, (v.check t now).value = .ok s

-- Only the time can speak against a token that stands here.
structure Trusts (v : Validator) (t : AccessToken) (s : Standing) : Prop where
  standing : t.HasStanding s
  approved : s.algorithm ∈ v.algorithms
  signed   : t.SignedBy v.key s.algorithm

theorem Trusts.under (h : v.Trusts t s) (p : Policy) : (v.under p).Trusts t s where
  standing := h.standing
  approved := h.approved
  signed   := h.signed

theorem Trusts.passes_iff (h : v.Trusts t s) : v.Passes t now ↔ v.Admits s now := by
  constructor
  case mp =>
    intro ⟨s', hc⟩
    have ⟨hs, _, _, hn⟩ := value_check_eq_ok_iff.mp hc
    exact h.standing.unique hs ▸ hn
  case mpr =>
    exact fun hn => ⟨s, value_check_eq_ok_iff.mpr ⟨h.standing, h.approved, h.signed, hn⟩⟩

theorem trusts_sealed {c : Claims} (hk : ¬v.key.Empty) (hs : (c.sealed v.key).HasStanding s) :
    v.Trusts (c.sealed v.key) s :=
  have ha : s.algorithm = .hs256 := (Option.some.inj hs.algorithm).symm
  { standing := hs
    approved := ha ▸ .head _
    signed   := ha ▸ (c.signedBy_signed_iff _ _ _ _).mpr ⟨hk, rfl⟩ }

theorem Passes.exists_trusts (h : v.Passes t now) : ∃ s, v.Trusts t s :=
  have ⟨s, hc⟩ := h
  have ⟨hs, ha, hk, _⟩ := value_check_eq_ok_iff.mp hc
  ⟨s, hs, ha, hk⟩

theorem not_passes_of_empty (hk : v.key.Empty) : ¬v.Passes t now := by
  intro hp
  have ⟨_, ht⟩ := hp.exists_trusts
  exact ht.signed.usable hk

theorem admits_under_iff {p : Policy} :
    (v.under p).Admits s now ↔
      s.issuedAt.seconds ≤ now.seconds + v.leeway.tolerance.seconds ∧
      now.seconds ≤ s.availability.lastSecond + v.leeway.tolerance.seconds ∧
      (now.seconds ≤ s.expiry.seconds + v.leeway.tolerance.seconds ∨
        p = .renewable ∧ now.seconds ≤ s.refreshDeadline.seconds + v.leeway.tolerance.seconds) := by
  rw [Admits.def, Availability.forall_bounded_not_elapsed_iff]
  simp only [under, Leeway.premature_iff, Leeway.elapsed_iff, Nat.not_lt]

theorem admits_strict_iff :
    (v.under .strict).Admits s now ↔ ((s.lifespan v.leeway).phase now).answers.1 := by
  rw [admits_under_iff, Lifespan.usable_iff]
  simp only [reduceCtorEq, false_and, or_false, Standing.lifespan]
  omega

theorem admits_renewable_iff :
    (v.under .renewable).Admits s now ↔ ((s.lifespan v.leeway).phase now).answers.2 := by
  rw [admits_under_iff, Lifespan.exchangeable_iff]
  simp only [true_and, Standing.lifespan]
  omega

-- Every token has a lifespan, which is all that matters to whether it passes.
theorem exists_lifespan (v : Validator) (t : AccessToken) :
    ∃ lf : Lifespan, ∀ now,
      ((v.under .strict).Passes t now ↔ (lf.phase now).answers.1) ∧
      ((v.under .renewable).Passes t now ↔ (lf.phase now).answers.2) := by
  by_cases h : ∃ s, v.Trusts t s
  case pos =>
    have ⟨s, hs⟩ := h
    refine ⟨s.lifespan v.leeway, fun now => ⟨?_, ?_⟩⟩
    · exact (hs.under .strict).passes_iff.trans admits_strict_iff
    · exact (hs.under .renewable).passes_iff.trans admits_renewable_iff
  case neg =>
    have hn (p : Policy) (now : Instant) : ¬(v.under p).Passes t now :=
      fun hp => have ⟨s, hs⟩ := hp.exists_trusts; h ⟨s, hs.under v.policy⟩
    refine ⟨.never, fun now => ?_⟩
    simp [hn, Lifespan.phase_never, Phase.answers]

-- A token that may be used may be exchanged, neither is ever interrupted, and once a token may only
-- be exchanged it will never be used again. So it goes through its phases once and in order.
theorem phases_in_order (v : Validator) (t : AccessToken) :
    (∀ now, (v.under .strict).Passes t now → (v.under .renewable).Passes t now) ∧
    (∀ p t₁ t₂ t₃, t₁ ≤ t₂ → t₂ ≤ t₃ →
      (v.under p).Passes t t₁ → (v.under p).Passes t t₃ → (v.under p).Passes t t₂) ∧
    (∀ t₁ t₂, t₁ ≤ t₂ →
      (v.under .renewable).Passes t t₁ → (v.under .strict).Passes t t₂ →
      (v.under .strict).Passes t t₁) ∧
    ∃ phase : Instant → Phase, (∀ t₁ t₂, t₁ ≤ t₂ → phase t₁ ≤ phase t₂) ∧
      ∀ now, (((v.under .strict).accepts t now).value, ((v.under .renewable).accepts t now).value) =
        (phase now).answers := by
  have ⟨lf, hlf⟩ := v.exists_lifespan t
  have hs (now : Instant) := (hlf now).1
  have hr (now : Instant) := (hlf now).2
  refine ⟨?_, ?_, ?_, lf.phase, fun _ _ => lf.phase_mono, ?_⟩
  · intro now h
    exact (hr now).mpr <| Phase.exchangeable_of_usable <| (hs now).mp h
  · intro p t₁ t₂ t₃ h₁₂ h₂₃ h₁ h₃
    have h₁₂ := lf.phase_mono h₁₂
    have h₂₃ := lf.phase_mono h₂₃
    cases p
    case strict =>
      exact (hs t₂).mpr <| Phase.usable_of_between h₁₂ h₂₃ ((hs t₁).mp h₁) ((hs t₃).mp h₃)
    case renewable =>
      exact (hr t₂).mpr <| Phase.exchangeable_of_between h₁₂ h₂₃ ((hr t₁).mp h₁) ((hr t₃).mp h₃)
  · intro t₁ t₂ h h₁ h₂
    exact (hs t₁).mpr <| Phase.usable_of_le (lf.phase_mono h) ((hr t₁).mp h₁) ((hs t₂).mp h₂)
  · intro now
    apply Prod.ext
    case fst => exact Bool.eq_iff_iff.mpr <| value_accepts_iff.trans (hs now)
    case snd => exact Bool.eq_iff_iff.mpr <| value_accepts_iff.trans (hr now)

-- A token that had expired before it was issued, and whose ceiling comes before its refresh
-- deadline. The leeway alone makes it usable, and its last second is that of the ceiling.
theorem phases_in_order_of_expired_issue :
    let k : Key := ⟨[0x6b]⟩
    let t := Claims.sealed {
      issuedAt        := some { seconds := 1000 }
      expiry          := some { seconds := 995 }
      refreshDeadline := some { seconds := 1200 }
      availability    := some <| .bounded { seconds := 1100 }
      principal       := "alice" } k
    let v : Validator := { key := k, policy := .strict }
    (v.under .renewable).Passes t { seconds := 990 } ∧
    (v.under .strict).Passes t { seconds := 1005 } ∧
    (v.under .strict).Passes t { seconds := 990 } ∧
    (v.under .renewable).Passes t { seconds := 1110 } ∧
    (v.under .renewable).Passes t { seconds := 1050 } := by
  intro k t v
  let st : Standing := {
    algorithm       := .hs256
    issuedAt        := { seconds := 1000 }
    expiry          := { seconds := 995 }
    refreshDeadline := { seconds := 1200 }
    availability    := .bounded { seconds := 1100 } }
  have ht : v.Trusts t st := trusts_sealed (by decide) ⟨rfl, nofun, rfl, rfl, nofun, rfl, rfl⟩
  have hs {now : Instant} : (v.under .strict).Passes t now ↔ _ :=
    (ht.under .strict).passes_iff.trans admits_strict_iff
  have hr {now : Instant} : (v.under .renewable).Passes t now ↔ _ :=
    (ht.under .renewable).passes_iff.trans admits_renewable_iff
  have hr₁ : (v.under .renewable).Passes t { seconds := 990 } := hr.mpr (by decide)
  have hs₂ : (v.under .strict).Passes t { seconds := 1005 } := hs.mpr (by decide)
  have hr₃ : (v.under .renewable).Passes t { seconds := 1110 } := hr.mpr (by decide)
  have ⟨_, hb, hl, _⟩ := v.phases_in_order t
  exact ⟨hr₁, hs₂, hl _ _ (by decide) hr₁ hs₂, hr₃, hb _ _ _ _ (by decide) (by decide) hr₁ hr₃⟩

end Validator
end TokenLifecycle
