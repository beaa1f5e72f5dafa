import TokenLifecycle.Token.Validator

namespace TokenLifecycle

variable {t : AccessToken} {s s' : Standing} {v : Validator} {k : Key} {a : Algorithm}
variable {now : Instant}

theorem Except.bind_eq_ok_iff {x : Except ε α} {f : α → Except ε β} {b : β} :
    (x >>= f) = .ok b ↔ ∃ a, x = .ok a ∧ f a = .ok b := by
  cases x <;> simp [bind, Except.bind]

theorem Except.exists_eq_error_of_ne_ok {x : Except ε α} (h : ∀ a, x ≠ .ok a) :
    ∃ e, x = .error e := by
  cases x
  case error e => exact ⟨e, rfl⟩
  case ok a    => exact absurd rfl (h a)

namespace AccessToken

theorem need_eq_ok_iff {f : Field} {o : Option α} {x : α} : need f o = .ok x ↔ o = some x := by
  cases o <;> simp [need]

-- The token says everything that it has to say to be judged, and this is where it stands.
structure HasStanding (t : AccessToken) (s : Standing) : Prop where
  algorithm       : t.header.algorithm = some s.algorithm
  kind            : t.header.kind ≠ none
  issuedAt        : t.claims.issuedAt = some s.issuedAt
  expiry          : t.claims.expiry = some s.expiry
  principal       : t.claims.principal ≠ none
  refreshDeadline : t.claims.refreshDeadline = some s.refreshDeadline
  availability    : t.claims.availability = some s.availability

theorem standing_eq_ok_iff : t.standing = .ok s ↔ t.HasStanding s where
  mp h := by
    simp only [standing, Except.bind_eq_ok_iff, need_eq_ok_iff] at h
    obtain ⟨a, ha, k, hk, i, hi, e, he, p, hp, r, hr, av, hav, h⟩ := h
    cases h
    exact ⟨ha, by simp [hk], hi, he, by simp [hp], hr, hav⟩
  mpr h := by
    have ⟨kd, hk⟩ := Option.ne_none_iff_exists'.mp h.kind
    have ⟨p, hp⟩ := Option.ne_none_iff_exists'.mp h.principal
    simp only [standing, Except.bind_eq_ok_iff, need_eq_ok_iff]
    exact ⟨_, h.algorithm, kd, hk, _, h.issuedAt, _, h.expiry, p, hp, _, h.refreshDeadline, _,
      h.availability, rfl⟩

theorem HasStanding.unique (h : t.HasStanding s) (h' : t.HasStanding s') : s = s' := by
  rw [← standing_eq_ok_iff] at h h'
  exact Except.ok.inj <| h.symm.trans h'

-- The key accepts the signature of the token for what is written in it.
def SignedBy (t : AccessToken) (k : Key) (a : Algorithm) : Prop :=
  k.Accepts a (Utf8.encode t.message.toList) t.signature

instance (t : AccessToken) (k : Key) (a : Algorithm) : Decidable (t.SignedBy k a) :=
  inferInstanceAs (Decidable (k.Accepts ..))

theorem value_verify_eq_ok_iff (h : t.header.algorithm = some a) :
    (t.verify k).value = .ok () ↔ t.SignedBy k a := by
  simp only [verify, h, SignedBy]
  split <;> simp_all

end AccessToken

namespace Validator

-- No rule about time is broken now.
structure Admits (v : Validator) (s : Standing) (now : Instant) : Prop where
  begun     : ¬v.leeway.Premature s.issuedAt now
  available : ∀ ceiling, s.availability = .bounded ceiling → ¬v.leeway.Elapsed ceiling now
  live      : ¬v.leeway.Elapsed s.expiry now ∨
                v.policy = .renewable ∧ ¬v.leeway.Elapsed s.refreshDeadline now

theorem Admits.def :
    v.Admits s now ↔ ¬v.leeway.Premature s.issuedAt now ∧
      (∀ ceiling, s.availability = .bounded ceiling → ¬v.leeway.Elapsed ceiling now) ∧
      (¬v.leeway.Elapsed s.expiry now ∨
        v.policy = .renewable ∧ ¬v.leeway.Elapsed s.refreshDeadline now) where
  mp  := fun ⟨begun, available, live⟩ => ⟨begun, available, live⟩
  mpr := fun ⟨begun, available, live⟩ => ⟨begun, available, live⟩

theorem forall_bounded_iff (av : Availability) (l : Leeway) (now : Instant) :
    (∀ ceiling, av = .bounded ceiling → ¬l.Elapsed ceiling now) ↔
      ¬av.deadline?.any (l.Elapsed · now) := by
  cases av <;> simp [Availability.deadline?]

theorem judge_eq_ok_iff : v.judge s now = .ok s' ↔ s = s' ∧ v.Admits s now := by
  simp only [judge, Admits.def, forall_bounded_iff]
  by_cases hb : v.leeway.Premature s.issuedAt now
  case pos => simp [hb]
  case neg =>
    cases hp : v.policy
    case strict    => repeat' split <;> simp_all
    case renewable =>
      simp only [true_and, ← Decidable.not_and_iff_not_or_not]
      repeat' split <;> simp_all

-- What the token says, how it is signed, and the time: a token passes if nothing is wrong with any
-- of them.
theorem value_check_eq_ok_iff :
    (v.check t now).value = .ok s ↔
      t.HasStanding s ∧ s.algorithm ∈ v.algorithms ∧ t.SignedBy v.key s.algorithm ∧
        v.Admits s now where
  mp h := by
    simp only [check] at h
    split at h
    case h_1 => cases h
    case h_2 s' hs =>
      have hs := AccessToken.standing_eq_ok_iff.mp hs
      split at h
      case isFalse   => cases h
      case isTrue ha =>
        rw [Logged.value_bind] at h
        split at h
        case h_1 => cases h
        case h_2 hk =>
          obtain ⟨rfl, hn⟩ := judge_eq_ok_iff.mp h
          exact ⟨hs, ha, (AccessToken.value_verify_eq_ok_iff hs.algorithm).mp hk, hn⟩
  mpr := by
    intro ⟨hs, ha, hk, hn⟩
    have hk := (AccessToken.value_verify_eq_ok_iff hs.algorithm).mpr hk
    rw [check, AccessToken.standing_eq_ok_iff.mpr hs]
    simp only [if_pos ha, Logged.value_bind, hk, Logged.value_pure]
    exact judge_eq_ok_iff.mpr ⟨rfl, hn⟩

theorem value_accepts_iff : (v.accepts t now).value ↔ ∃ s, (v.check t now).value = .ok s := by
  simp only [accepts, Logged.value_bind]
  split <;> simp_all

end Validator
end TokenLifecycle
