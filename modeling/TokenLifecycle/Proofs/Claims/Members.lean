import TokenLifecycle.Proofs.Claims.Document

namespace TokenLifecycle

open Json

variable {ms ms₁ ms₂ : List (String × Json)} {name : String} {v : Json} {c : Claims}

-- The values that a claim can have in a document, and what is read of the member for it.

namespace Json

def IsText (v : Json) : Prop :=
  ∃ s : String, v = .text s

theorem text?_eq_some_iff {s : String} : text? v = some s ↔ v = .text s := by
  cases v <;> simp [text?]

theorem exists_text?_iff : (∃ s, text? v = some s) ↔ IsText v := by
  simp only [text?_eq_some_iff, IsText]

theorem member?_text_eq_some_iff {x : Option String} :
    member? ms name none (nullOr text?) = some x ↔
      AtMostOnce ms name ∧ (∀ v, (name, v) ∈ ms → v = .null ∨ IsText v) ∧
        ∀ s : String, x = some s ↔ (name, .text s) ∈ ms := by
  have hn : text? .null = none := rfl
  simp only [member?_nullOr_eq_some_iff hn, exists_text?_iff]
  simp only [text?_eq_some_iff, exists_eq_right]

end Json

namespace Instant

-- A whole number of seconds that is not too large.
def IsDocument (v : Json) : Prop :=
  ∃ n ≤ maxSeconds, v = .number (some n)

theorem ofJson?_eq_some_iff {t : Instant} : ofJson? v = some t ↔ v = .number t.seconds := by
  constructor
  case mp =>
    intro h
    obtain ⟨n, hn, ht⟩ := Option.bind_eq_some_iff.mp h
    cases v <;> cases hn
    rw [ofNat?_eq_some_iff.mp ht]
  case mpr =>
    intro h
    rw [h]
    exact ofJson?_document t

theorem exists_ofJson?_iff : (∃ t, ofJson? v = some t) ↔ IsDocument v := by
  simp only [ofJson?_eq_some_iff]
  exact ⟨fun ⟨t, h⟩ => ⟨t.seconds, t.bound, h⟩, fun ⟨n, hn, h⟩ => ⟨⟨n, hn⟩, h⟩⟩

theorem member?_eq_some_iff {x : Option Instant} :
    member? ms name none (nullOr ofJson?) = some x ↔
      AtMostOnce ms name ∧ (∀ v, (name, v) ∈ ms → v = .null ∨ IsDocument v) ∧
        ∀ t, x = some t ↔ (name, .number t.seconds) ∈ ms := by
  have hn : ofJson? .null = none := rfl
  simp only [member?_nullOr_eq_some_iff hn, exists_ofJson?_iff]
  simp only [ofJson?_eq_some_iff, exists_eq_right]

end Instant

namespace Availability

theorem exists_ofJson?_iff : (∃ av, ofJson? v = some av) ↔ Instant.IsDocument v := by
  simp [ofJson?, ← Instant.exists_ofJson?_iff]

theorem ofJson?_eq_some_iff {av : Availability} :
    ofJson? v = some av ↔ ∃ t : Instant, v = .number t.seconds ∧
      av = if t.seconds = 0 then .unbounded else .bounded t := by
  have he (t : Instant) : t = .epoch ↔ t.seconds = 0 := Instant.ext_iff
  simp only [ofJson?, Option.map_eq_some_iff, Instant.ofJson?_eq_some_iff, ofInstant, he,
    eq_comm (b := av)]

theorem member?_eq_some_iff {x : Option Availability} :
    member? ms name none (nullOr ofJson?) = some x ↔
      AtMostOnce ms name ∧ (∀ v, (name, v) ∈ ms → v = .null ∨ Instant.IsDocument v) ∧
        ∀ av, x = some av ↔ ∃ t : Instant, (name, .number t.seconds) ∈ ms ∧
          av = if t.seconds = 0 then .unbounded else .bounded t := by
  have hn : ofJson? .null = none := rfl
  have hm (av : Availability) : (∃ v, (name, v) ∈ ms ∧ ofJson? v = some av) ↔
      ∃ t : Instant, (name, .number t.seconds) ∈ ms ∧
        av = if t.seconds = 0 then .unbounded else .bounded t := by
    simp only [ofJson?_eq_some_iff]
    exact ⟨fun ⟨_, hv, t, he, ht⟩ => ⟨t, he ▸ hv, ht⟩, fun ⟨t, hv, ht⟩ => ⟨_, hv, t, rfl, ht⟩⟩
  simp only [member?_nullOr_eq_some_iff hn, exists_ofJson?_iff, hm]

end Availability

namespace Audiences

variable {as : List String}

-- A single text, or any number of them.
def IsDocument (v : Json) : Prop :=
  IsText v ∨ ∃ as, v = .array (texts as)

theorem mapM_text?_eq_some_iff {items : List Json} :
    items.mapM text? = some as ↔ items = texts as := by
  induction items generalizing as
  case nil => cases as <;> simp [texts]
  case cons item items hi =>
    cases as <;> simp [texts, List.mapM_cons, Option.bind_eq_some_iff, text?_eq_some_iff, hi]

theorem ofJson?_eq_some_iff :
    ofJson? v = some as ↔ (∃ a : String, v = .text a ∧ as = [a]) ∨ v = .array (texts as) := by
  cases v
  case text content => cases content <;> simp [ofJson?, text?, texts?, eq_comm]
  case array items  => simp [ofJson?, text?, texts?, mapM_text?_eq_some_iff]
  all_goals simp [ofJson?, text?, texts?]

theorem exists_ofJson?_iff : (∃ as, ofJson? v = some as) ↔ IsDocument v := by
  simp only [ofJson?_eq_some_iff, IsDocument, IsText, exists_or]
  exact or_congr_left ⟨fun ⟨_, a, h, _⟩ => ⟨a, h⟩, fun ⟨a, h⟩ => ⟨_, a, h, rfl⟩⟩

-- What the members say of the audiences.
structure AsWritten (as : List String) (ms : List (String × Json)) (name : String) : Prop where
  missing : (∀ v, (name, v) ∉ ms) → as = []
  single  : ∀ a : String, (name, .text a) ∈ ms → as = [a]
  many    : ∀ as', (name, .array <| texts as') ∈ ms → as = as'

theorem member?_eq_some_iff :
    member? ms name [] ofJson? = some as ↔
      AtMostOnce ms name ∧ (∀ v, (name, v) ∈ ms → IsDocument v) ∧ AsWritten as ms name := by
  rw [Json.member?_eq_some_iff]
  constructor
  case mp =>
    intro ⟨h₁, hr, hn⟩
    refine ⟨h₁, fun v hv => exists_ofJson?_iff.mp ⟨as, hr v hv⟩, ?_⟩
    exact {
      missing h   := (hn h).symm
      single a hv := (Option.some.inj <| hr _ hv).symm
      many as' hv := Option.some.inj <| (hr _ hv).symm.trans <| ofJson?_array_texts as'
    }
  case mpr =>
    intro ⟨h₁, hd, hw⟩
    refine ⟨h₁, fun v hv => ?_, fun h => (hw.missing h).symm⟩
    obtain ⟨a, rfl⟩ | ⟨as', rfl⟩ := hd v hv
    case inl => rw [hw.single a hv]; rfl
    case inr => rw [hw.many as' hv, ofJson?_array_texts]

end Audiences

namespace Claims

-- The members can be read as claims. Nothing is asked of members of other names.
structure Acceptable (ms : List (String × Json)) : Prop where
  once      : ∀ f ∈ Field.payload, AtMostOnce ms f.name
  texts     : ∀ f ∈ [Field.issuer, .subject, .principal], ∀ v, (f.name, v) ∈ ms →
                v = .null ∨ IsText v
  audiences : ∀ v, (Field.audience.name, v) ∈ ms → Audiences.IsDocument v
  instants  : ∀ f ∈ [Field.issuedAt, .expiry, .refreshDeadline, .availability], ∀ v,
                (f.name, v) ∈ ms → v = .null ∨ Instant.IsDocument v

-- The claims are what the members say, and nothing else.
structure AsWritten (c : Claims) (ms : List (String × Json)) : Prop where
  issuer          : ∀ s : String, c.issuer = some s ↔ (Field.issuer.name, .text s) ∈ ms
  subject         : ∀ s : String, c.subject = some s ↔ (Field.subject.name, .text s) ∈ ms
  audiences       : Audiences.AsWritten c.audiences ms Field.audience.name
  issuedAt        : ∀ t, c.issuedAt = some t ↔ (Field.issuedAt.name, .number t.seconds) ∈ ms
  expiry          : ∀ t, c.expiry = some t ↔ (Field.expiry.name, .number t.seconds) ∈ ms
  refreshDeadline : ∀ t, c.refreshDeadline = some t ↔
                      (Field.refreshDeadline.name, .number t.seconds) ∈ ms
  availability    : ∀ av, c.availability = some av ↔
                      ∃ t : Instant, (Field.availability.name, .number t.seconds) ∈ ms ∧
                        av = if t.seconds = 0 then .unbounded else .bounded t
  principal       : ∀ s : String, c.principal = some s ↔ (Field.principal.name, .text s) ∈ ms

theorem ofJson?_record_eq_some_iff_member? :
    ofJson? (record ms) = some c ↔
      member? ms Field.issuer.name none (nullOr text?) = some c.issuer ∧
      member? ms Field.subject.name none (nullOr text?) = some c.subject ∧
      member? ms Field.audience.name [] Audiences.ofJson? = some c.audiences ∧
      member? ms Field.issuedAt.name none (nullOr Instant.ofJson?) = some c.issuedAt ∧
      member? ms Field.expiry.name none (nullOr Instant.ofJson?) = some c.expiry ∧
      member? ms Field.refreshDeadline.name none (nullOr Instant.ofJson?) =
        some c.refreshDeadline ∧
      member? ms Field.availability.name none (nullOr Availability.ofJson?) =
        some c.availability ∧
      member? ms Field.principal.name none (nullOr text?) = some c.principal := by
  simp only [ofJson?, members?_record, Option.bind_eq_bind, Option.bind_some,
    Option.bind_eq_some_iff, Option.pure_def, Option.some.injEq]
  constructor
  case mp =>
    rintro ⟨_, h₁, _, h₂, _, h₃, _, h₄, _, h₅, _, h₆, _, h₇, _, h₈, rfl⟩
    exact ⟨h₁, h₂, h₃, h₄, h₅, h₆, h₇, h₈⟩
  case mpr =>
    rintro ⟨h₁, h₂, h₃, h₄, h₅, h₆, h₇, h₈⟩
    exact ⟨_, h₁, _, h₂, _, h₃, _, h₄, _, h₅, _, h₆, _, h₇, _, h₈, rfl⟩

theorem ofJson?_record_eq_some_iff :
    ofJson? (record ms) = some c ↔ Acceptable ms ∧ c.AsWritten ms := by
  simp only [ofJson?_record_eq_some_iff_member?, member?_text_eq_some_iff,
    Instant.member?_eq_some_iff, Availability.member?_eq_some_iff, Audiences.member?_eq_some_iff]
  constructor
  case mp =>
    intro ⟨⟨o₁, d₁, w₁⟩, ⟨o₂, d₂, w₂⟩, ⟨o₃, d₃, w₃⟩, ⟨o₄, d₄, w₄⟩, ⟨o₅, d₅, w₅⟩, ⟨o₆, d₆, w₆⟩,
      ⟨o₇, d₇, w₇⟩, ⟨o₈, d₈, w₈⟩⟩
    refine ⟨⟨?_, ?_, d₃, ?_⟩, w₁, w₂, w₃, w₄, w₅, w₆, w₇, w₈⟩
    case refine_1 => simpa [Field.payload] using ⟨o₁, o₂, o₃, o₄, o₅, o₆, o₇, o₈⟩
    case refine_2 => simpa using ⟨d₁, d₂, d₈⟩
    case refine_3 => simpa using ⟨d₄, d₅, d₆, d₇⟩
  case mpr =>
    intro ⟨⟨o, d, d₃, i⟩, w⟩
    simp only [Field.payload, List.forall_mem_cons] at o d i
    obtain ⟨o₁, o₂, o₃, o₄, o₅, o₆, o₇, o₈, _⟩ := o
    obtain ⟨d₁, d₂, d₈, _⟩ := d
    obtain ⟨d₄, d₅, d₆, d₇, _⟩ := i
    exact ⟨⟨o₁, d₁, w.issuer⟩, ⟨o₂, d₂, w.subject⟩, ⟨o₃, d₃, w.audiences⟩, ⟨o₄, d₄, w.issuedAt⟩,
      ⟨o₅, d₅, w.expiry⟩, ⟨o₆, d₆, w.refreshDeadline⟩, ⟨o₇, d₇, w.availability⟩,
      ⟨o₈, d₈, w.principal⟩⟩

theorem exists_ofJson?_record_iff : (∃ c, ofJson? (record ms) = some c) ↔ Acceptable ms := by
  constructor
  case mp  => exact fun ⟨_, h⟩ => (ofJson?_record_eq_some_iff.mp h).1
  case mpr =>
    intro h
    have text (f) (ho : f ∈ Field.payload) (hf : f ∈ [Field.issuer, .subject, .principal]) :
        ∃ x, member? ms f.name none (nullOr text?) = some x :=
      exists_member?_nullOr_eq_some_iff.mpr
        ⟨h.once f ho, fun v hv => (h.texts f hf v hv).imp_right exists_text?_iff.mpr⟩
    have instant (f) (ho : f ∈ Field.payload)
        (hf : f ∈ [Field.issuedAt, .expiry, .refreshDeadline, .availability]) :
        ∃ x, member? ms f.name none (nullOr Instant.ofJson?) = some x :=
      exists_member?_nullOr_eq_some_iff.mpr
        ⟨h.once f ho, fun v hv => (h.instants f hf v hv).imp_right Instant.exists_ofJson?_iff.mpr⟩
    have ⟨_, h₁⟩ := text .issuer (by decide) (by decide)
    have ⟨_, h₂⟩ := text .subject (by decide) (by decide)
    have ⟨_, h₃⟩ : ∃ as, member? ms Field.audience.name [] Audiences.ofJson? = some as :=
      exists_member?_eq_some_iff.mpr ⟨h.once .audience (by decide),
        fun v hv => Audiences.exists_ofJson?_iff.mpr <| h.audiences v hv⟩
    have ⟨_, h₄⟩ := instant .issuedAt (by decide) (by decide)
    have ⟨_, h₅⟩ := instant .expiry (by decide) (by decide)
    have ⟨_, h₆⟩ := instant .refreshDeadline (by decide) (by decide)
    have ⟨_, h₇⟩ : ∃ x, member? ms Field.availability.name none (nullOr Availability.ofJson?) =
        some x :=
      exists_member?_nullOr_eq_some_iff.mpr ⟨h.once .availability (by decide), fun v hv =>
        (h.instants .availability (by decide) v hv).imp_right Availability.exists_ofJson?_iff.mpr⟩
    have ⟨_, h₈⟩ := text .principal (by decide) (by decide)
    exact ⟨⟨_, _, _, _, _, _, _, _⟩,
      ofJson?_record_eq_some_iff_member?.mpr ⟨h₁, h₂, h₃, h₄, h₅, h₆, h₇, h₈⟩⟩

-- The member is for one of the claims.
def Known (m : String × Json) : Prop :=
  m.1 ∈ Field.payload.map Field.name

instance : DecidablePred Known :=
  fun _ => inferInstanceAs (Decidable (_ ∈ _))

theorem filter_filter_known {f : Field} (hf : f ∈ Field.payload) :
    (ms.filter Known).filter (·.1 = f.name) = ms.filter (·.1 = f.name) := by
  rw [List.filter_filter]
  refine List.filter_congr fun m _ => ?_
  have hk (h : m.1 = f.name) : Known m := by
    rw [Known, h]
    exact List.mem_map_of_mem hf
  simpa using hk

theorem ofJson?_record_perm (h : (ms₁.filter Known).Perm (ms₂.filter Known)) :
    ofJson? (record ms₁) = ofJson? (record ms₂) := by
  have hm {α : Type} {absent : α} {read? : Json → Option α} {f : Field} (hf : f ∈ Field.payload) :
      member? ms₁ f.name absent read? = member? ms₂ f.name absent read? := by
    apply member?_perm
    simpa only [filter_filter_known hf] using h.filter (·.1 = f.name)
  simp (disch := decide) only [ofJson?, members?_record, Option.bind_eq_bind, Option.bind_some, hm]

end Claims
end TokenLifecycle
