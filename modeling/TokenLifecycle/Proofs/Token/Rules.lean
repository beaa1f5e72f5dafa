import TokenLifecycle.Proofs.Token.Phases
import TokenLifecycle.Proofs.Token.Reading

namespace TokenLifecycle

variable {ε α β : Type}
variable {t : AccessToken} {s : Standing} {v : Validator} {now : Instant} {f : Field}

-- The computation fails with the error, or succeeds if there is none.
def Except.FailsWith (x : Except ε α) (o : Option ε) : Prop :=
  ∀ e, x = .error e ↔ o = some e

namespace Except.FailsWith

theorem error (e : ε) : FailsWith (.error e : Except ε α) (some e) :=
  fun _ => by simp only [Except.error.injEq, Option.some.injEq]

theorem ok (a : α) : FailsWith (.ok a : Except ε α) none :=
  fun _ => by simp only [reduceCtorEq]

theorem exists_ok_iff {x : Except ε α} {o : Option ε} (h : FailsWith x o) :
    (∃ a, x = .ok a) ↔ o = none := by
  cases x
  case error e => simp [(h e).mp rfl]
  case ok a =>
    cases o
    case none   => simp
    case some e => exact nomatch (h e).mpr rfl

-- An error for which there is a rule comes before those of all later rules.
theorem rule {x : Except ε α} {c : Prop} [Decidable c] {Broken : ε → Prop} [DecidablePred Broken]
    {e : ε} {es : List ε} (he : Broken e ↔ c) (hx : FailsWith x (es.find? (Broken ·))) :
    FailsWith (if c then .error e else x) ((e :: es).find? (Broken ·)) := by
  split
  case isTrue hc  =>
    rw [List.find?_cons_of_pos (by simp [he, hc])]
    exact error e
  case isFalse hc =>
    rw [List.find?_cons_of_neg (by simp [he, hc])]
    exact hx

end Except.FailsWith

-- The rules that concern the token itself, in the order in which they are looked at.
def Rejection.integrity : List Rejection :=
  AccessToken.required.map .missing ++ [.unapprovedAlgorithm, .signatureMismatch]

theorem Rejection.mem_integrity_iff {r : Rejection} :
    r ∈ integrity ↔
      (∃ f ∈ AccessToken.required, .missing f = r) ∨ r = .unapprovedAlgorithm ∨
        r = .signatureMismatch := by
  simp only [integrity, List.mem_append, List.mem_map, List.mem_cons, List.not_mem_nil, or_false]

theorem Rejection.isIntegrityFailure_of_mem {r : Rejection} (h : r ∈ integrity) :
    r.IsIntegrityFailure := by
  obtain ⟨f, _, rfl⟩ | rfl | rfl := mem_integrity_iff.mp h
  all_goals trivial

namespace Policy

-- The rules that concern the time, in the order of the policy.
def timing : Policy → List Rejection
  | strict    => [.issuedInFuture, .expired, .availabilityElapsed]
  | renewable => [.issuedInFuture, .availabilityElapsed, .refreshWindowElapsed]

def rules (p : Policy) : List Rejection :=
  Rejection.integrity ++ p.timing

theorem missing_mem_rules_iff {p : Policy} : .missing f ∈ p.rules ↔ f ∈ AccessToken.required := by
  cases p <;> simp [rules, Rejection.integrity, timing]

end Policy

namespace Validator

-- The instant lies further back than the leeway reaches. There is no largest number of seconds
-- here, so nothing is cut off.
def Past (v : Validator) (deadline now : Instant) : Prop :=
  deadline.seconds + v.leeway.tolerance.seconds < now.seconds

instance (v : Validator) (deadline now : Instant) : Decidable (v.Past deadline now) :=
  inferInstanceAs (Decidable (_ < _))

-- What it takes to break each rule, whether or not another one is broken as well.
def Breaks (v : Validator) (t : AccessToken) (now : Instant) : Rejection → Prop
  | .missing f            => ¬t.Has f
  | .unapprovedAlgorithm  => ∃ a ∈ t.header.algorithm, a ≠ .hs256 ∧ a ∉ v.approved
  | .signatureMismatch    => ∃ a ∈ t.header.algorithm, v.key.Empty ∨
                               t.signature ≠ v.key.mac a (Utf8.encode t.message.toList)
  | .issuedInFuture       => ∃ start ∈ t.claims.issuedAt,
                               now.seconds + v.leeway.tolerance.seconds < start.seconds
  | .expired              => ∃ expiry ∈ t.claims.expiry, v.Past expiry now
  | .refreshWindowElapsed => (∃ expiry ∈ t.claims.expiry, v.Past expiry now) ∧
                               ∃ deadline ∈ t.claims.refreshDeadline, v.Past deadline now
  | .availabilityElapsed  => ∃ av ∈ t.claims.availability, ∃ ceiling ∈ av.deadline?,
                               v.Past ceiling now

instance (v : Validator) (t : AccessToken) (now : Instant) (r : Rejection) :
    Decidable (v.Breaks t now r) :=
  match r with
  | .missing _            => inferInstanceAs (Decidable (¬_))
  | .unapprovedAlgorithm  => inferInstanceAs (Decidable (∃ a ∈ _, _))
  | .signatureMismatch    => inferInstanceAs (Decidable (∃ a ∈ _, _))
  | .issuedInFuture       => inferInstanceAs (Decidable (∃ start ∈ _, _))
  | .expired              => inferInstanceAs (Decidable (∃ expiry ∈ _, _))
  | .refreshWindowElapsed => inferInstanceAs (Decidable (_ ∧ _))
  | .availabilityElapsed  => inferInstanceAs (Decidable (∃ av ∈ _, _))

end Validator

namespace AccessToken

-- A field that is needed comes before all that is looked for after it.
theorem failsWith_need {o : Option α} {fs : List Field} {k : α → Except Field β}
    (hf : t.Has f ↔ o ≠ none)
    (hk : ∀ a, Except.FailsWith (k a) (fs.find? (¬t.Has ·))) :
    Except.FailsWith (need f o >>= k) ((f :: fs).find? (¬t.Has ·)) := by
  cases o
  case none   =>
    rw [List.find?_cons_of_pos (by simp [hf])]
    exact .error f
  case some a =>
    rw [List.find?_cons_of_neg (by simp [hf])]
    exact hk a

theorem failsWith_standing (t : AccessToken) :
    Except.FailsWith t.standing (required.find? (¬t.Has ·)) :=
  failsWith_need .rfl fun _ => failsWith_need .rfl fun _ => failsWith_need .rfl fun _ =>
    failsWith_need .rfl fun _ => failsWith_need .rfl fun _ => failsWith_need .rfl fun _ =>
    failsWith_need .rfl fun _ => .ok _

theorem hasRequired_iff_find? : t.HasRequired ↔ required.find? (¬t.Has ·) = none := by
  simp [HasRequired, List.find?_eq_none]

theorem hasRequired_iff : t.HasRequired ↔ ∃ s, t.HasStanding s := by
  simp only [hasRequired_iff_find?, ← t.failsWith_standing.exists_ok_iff, standing_eq_ok_iff]

namespace HasStanding

variable (h : t.HasStanding s)

include h

-- Where a token stands decides which of the other rules it breaks.

theorem breaks_unapprovedAlgorithm_iff :
    v.Breaks t now .unapprovedAlgorithm ↔ s.algorithm ∉ v.algorithms := by
  simp [Validator.Breaks, Validator.algorithms, h.algorithm]

theorem breaks_signatureMismatch_iff :
    v.Breaks t now .signatureMismatch ↔ ¬t.SignedBy v.key s.algorithm := by
  simp only [Validator.Breaks, h.algorithm, Option.mem_some_iff, exists_eq_left', SignedBy,
    Key.Accepts.def, Decidable.not_and_iff_not_or_not, Decidable.not_not, ne_eq]

theorem breaks_issuedInFuture_iff :
    v.Breaks t now .issuedInFuture ↔ v.leeway.Premature s.issuedAt now := by
  simp [Validator.Breaks, h.issuedAt, Leeway.premature_iff]

theorem breaks_expired_iff :
    v.Breaks t now .expired ↔ v.leeway.Elapsed s.expiry now := by
  simp [Validator.Breaks, Validator.Past, h.expiry, Leeway.elapsed_iff]

theorem breaks_refreshWindowElapsed_iff :
    v.Breaks t now .refreshWindowElapsed ↔
      v.leeway.Elapsed s.expiry now ∧ v.leeway.Elapsed s.refreshDeadline now := by
  simp [Validator.Breaks, Validator.Past, h.expiry, h.refreshDeadline, Leeway.elapsed_iff]

theorem breaks_availabilityElapsed_iff :
    v.Breaks t now .availabilityElapsed ↔
      s.availability.deadline?.any (v.leeway.Elapsed · now) := by
  cases ha : s.availability <;>
    simp [Validator.Breaks, Validator.Past, h.availability, ha, Availability.deadline?,
      Leeway.elapsed_iff]

end HasStanding
end AccessToken

namespace Validator

theorem failsWith_judge (h : t.HasStanding s) :
    Except.FailsWith (v.judge s now) (v.policy.timing.find? (v.Breaks t now ·)) := by
  unfold judge
  cases v.policy
  case strict    =>
    exact .rule h.breaks_issuedInFuture_iff <| .rule h.breaks_expired_iff <|
      .rule h.breaks_availabilityElapsed_iff <| .ok s
  case renewable =>
    exact .rule h.breaks_issuedInFuture_iff <| .rule h.breaks_availabilityElapsed_iff <|
      .rule h.breaks_refreshWindowElapsed_iff <| .ok s

theorem value_check_of_missing (h : t.standing = .error f) :
    (v.check t now).value = .error (.missing f) := by
  rw [check, h]
  rfl

theorem value_check_of_standing (h : t.HasStanding s) :
    (v.check t now).value =
      if s.algorithm ∉ v.algorithms then .error .unapprovedAlgorithm
      else if ¬t.SignedBy v.key s.algorithm then .error .signatureMismatch
      else v.judge s now := by
  simp only [check, AccessToken.standing_eq_ok_iff.mpr h, AccessToken.verify, h.algorithm,
    AccessToken.SignedBy]
  by_cases ha : s.algorithm ∈ v.algorithms
  case neg => simp [ha]
  case pos =>
    by_cases hk : v.key.Accepts s.algorithm (Utf8.encode t.message.toList) t.signature
    case pos => simp [ha, hk]
    case neg => simp [ha, hk]

-- The reason that is given is the first rule of the policy that is broken.
theorem failsWith_check (v : Validator) (t : AccessToken) (now : Instant) :
    Except.FailsWith (v.check t now).value (v.policy.rules.find? (v.Breaks t now ·)) := by
  have hm : (AccessToken.required.map Rejection.missing).find? (v.Breaks t now ·) =
      (AccessToken.required.find? (¬t.Has ·)).map Rejection.missing :=
    List.find?_map
  rw [Policy.rules, Rejection.integrity, List.append_assoc, List.find?_append, hm]
  cases hs : t.standing
  case error f =>
    rw [(t.failsWith_standing f).mp hs, value_check_of_missing hs]
    exact .error (Rejection.missing f)
  case ok s =>
    have hr := t.failsWith_standing.exists_ok_iff.mp ⟨s, hs⟩
    have hs := AccessToken.standing_eq_ok_iff.mp hs
    rw [hr, value_check_of_standing hs]
    exact .rule hs.breaks_unapprovedAlgorithm_iff <| .rule hs.breaks_signatureMismatch_iff <|
      failsWith_judge hs

-- Of a token that only the time can speak against, only the rules about the time are left.

theorem Trusts.not_breaks (h : v.Trusts t s) {r : Rejection} (hr : r ∈ Rejection.integrity) :
    ¬v.Breaks t now r := by
  obtain ⟨f, hf, rfl⟩ | rfl | rfl := Rejection.mem_integrity_iff.mp hr
  case inl     => exact not_not.mpr <| AccessToken.hasRequired_iff.mpr ⟨s, h.standing⟩ f hf
  case inr.inl => exact mt h.standing.breaks_unapprovedAlgorithm_iff.mp <| not_not.mpr h.approved
  case inr.inr => exact mt h.standing.breaks_signatureMismatch_iff.mp <| not_not.mpr h.signed

theorem Trusts.find?_rules (h : v.Trusts t s) (p : Policy) (now : Instant) :
    p.rules.find? (v.Breaks t now ·) = p.timing.find? (v.Breaks t now ·) := by
  have hi : Rejection.integrity.find? (v.Breaks t now ·) = none :=
    List.find?_eq_none.mpr fun _ hr => by simpa using h.not_breaks hr
  rw [Policy.rules, List.find?_append, hi, Option.none_or]

-- A token passes unless it breaks a rule of the policy, and is turned down for the first one that
-- it breaks. Something is said to be missing exactly if something is. The signature is that of the
-- text before the last dot, just as it was written.
theorem check_reports_first (v : Validator) (t : AccessToken) (now : Instant) :
    (∀ r, (v.check t now).value = .error r ↔ v.policy.rules.find? (v.Breaks t now ·) = some r) ∧
    ((∃ s, (v.check t now).value = .ok s) ↔ ∀ r ∈ v.policy.rules, ¬v.Breaks t now r) ∧
    (t.HasRequired ↔ ∀ f, (v.check t now).value ≠ .error (.missing f)) ∧
    ∀ token, AccessToken.read token = .ok t →
      ∃ g, '.' ∉ g ∧ token.toList = t.message.toList ++ '.' :: g := by
  have hf := v.failsWith_check t now
  refine ⟨hf, ?_, ?_, fun _ => AccessToken.exists_toList_eq_of_read⟩
  · rw [hf.exists_ok_iff, List.find?_eq_none]
    simp only [decide_eq_true_eq]
  · constructor
    case mp =>
      intro hr f he
      have he := (hf _).mp he
      have hb : v.Breaks t now (.missing f) := by simpa using List.find?_some he
      exact hb <| hr f <| Policy.missing_mem_rules_iff.mp <| List.mem_of_find?_eq_some he
    case mpr =>
      intro hn
      cases hs : t.standing
      case error f => exact absurd (value_check_of_missing hs) (hn f)
      case ok s    =>
        exact AccessToken.hasRequired_iff.mpr ⟨s, AccessToken.standing_eq_ok_iff.mp hs⟩

-- The ceiling of the token has passed, and so have its other horizons. Each policy has its own
-- reason to turn it down.
theorem check_reports_first_of_elapsed_token :
    let k : Key := ⟨[0x6b]⟩
    let t := Claims.sealed {
      issuedAt        := some { seconds := 1000 }
      expiry          := some { seconds := 1300 }
      refreshDeadline := some { seconds := 1200 }
      availability    := some <| .bounded { seconds := 1100 }
      principal       := "alice" } k
    let v : Validator := { key := k, policy := .strict }
    let now : Instant := { seconds := 1311 }
    AccessToken.read t.encoded = .ok t ∧
    (v.check t now).value = .error .expired ∧
    ((v.under .renewable).check t now).value = .error .availabilityElapsed ∧
    (∀ f, (v.check t now).value ≠ .error (.missing f)) ∧
    ∃ g, '.' ∉ g ∧ t.encoded.toList = t.message.toList ++ '.' :: g := by
  intro k t v now
  have hr : AccessToken.read t.encoded = .ok t := Claims.read_sealed ..
  have ht : v.Trusts t ⟨.hs256, _, _, _, _⟩ :=
    trusts_sealed (by decide) ⟨rfl, nofun, rfl, rfl, nofun, rfl, rfl⟩
  have ⟨hs, _, hm, hg⟩ := v.check_reports_first t now
  have ⟨hn, _⟩ := (v.under .renewable).check_reports_first t now
  refine ⟨hr, (hs _).mpr ?_, (hn _).mpr ?_, hm.mp ?_, hg _ hr⟩
  · exact (ht.find?_rules _ now).trans <| by decide
  · exact ((ht.under _).find?_rules _ now).trans <| by decide
  · exact AccessToken.hasRequired_iff.mpr ⟨_, ht.standing⟩

end Validator
end TokenLifecycle
