import TokenLifecycle.Proofs.Token.Reading

namespace TokenLifecycle

open Json

namespace Json

variable {v : Json} {names : List String}

-- The document holds the members of a record: it is an object, or the array of their values in the
-- order of their names, of which the last ones may be left out.
inductive Holds (names : List String) : Json → List (Option String × Json) → Prop
  | object (members : List (Option String × Json)) : Holds names (.object members) members
  | array {items : List Json} (h : items.length ≤ names.length) :
    Holds names (.array items) ((names.zip items).map fun (name, v) => (some name, v))

theorem members?_object_eq_some_iff {members : List (Option String × Json)}
    {ms : List (String × Json)} :
    (object members).members? names = some ms ↔
      members = ms.map fun (name, v) => (some name, v) where
  mp h := by
    simp only [members?] at h
    induction members generalizing ms
    case nil => cases h; rfl
    case cons m members hi =>
      obtain ⟨name, v⟩ := m
      simp only [List.mapM_cons, Option.pure_def, Option.bind_eq_bind, Option.bind_eq_some_iff,
        Option.map_eq_some_iff, Option.some.injEq] at h
      obtain ⟨_, ⟨name, rfl, rfl⟩, ms, hm, rfl⟩ := h
      rw [List.map_cons, hi hm]
  mpr h := h ▸ members?_record names ms

-- A document that is read as a record holds its members, and whether they are in an object or in an
-- array makes no difference.

theorem holds_of_members?_eq_some {ms : List (String × Json)} (h : v.members? names = some ms) :
    v.Holds names (ms.map fun (name, v) => (some name, v)) := by
  cases v
  case object members => exact members?_object_eq_some_iff.mp h ▸ .object _
  case array items    =>
    simp only [members?] at h
    split at h
    case isTrue hl => cases h; exact .array hl
    case isFalse   => cases h
  all_goals cases h

theorem Holds.members?_eq {members : List (Option String × Json)} (h : v.Holds names members) :
    v.members? names = (Json.object members).members? names := by
  cases h
  case object  => rfl
  case array h => exact (if_pos h).trans (members?_object_eq_some_iff.mpr rfl).symm

end Json

variable {v : Json} {members : List (Option String × Json)}

theorem Algorithm.ofJson?_eq_some_iff {a : Algorithm} :
    ofJson? v = some a ↔ v = .text a.name ∨ v = .object [(some a.name, .null)] := by
  unfold ofJson?
  split
  case h_1 name =>
    cases name
    case none      => simp
    case some name => simpa using ofName?_eq_some_iff.trans eq_comm
  case h_2 name => simpa using ofName?_eq_some_iff.trans eq_comm
  case h_3 ht ho =>
    simp only [reduceCtorEq, false_iff, not_or]
    exact ⟨ht _, ho _⟩

namespace Header

-- What the algorithm of a header is meant to be, and what it may be.

def SaysName (x : Json) : Prop :=
  x = .null ∨ ∃ a : Algorithm, x = .text a.name

def SaysAlgorithm (x : Json) : Prop :=
  x = .null ∨ ∃ a : Algorithm, x = .text a.name ∨ x = .object [(some a.name, .null)]

-- A header as it is meant to be: an object, whose algorithm, if there is one, is a name.
def Proper (v : Json) : Prop :=
  ∃ members, v = .object members ∧ ∀ x, (some Field.algorithm.name, x) ∈ members → SaysName x

-- A header as it may be.
def Shape (v : Json) : Prop :=
  ∃ members, v.Holds (Field.header.map Field.name) members ∧
    ∀ x, (some Field.algorithm.name, x) ∈ members → SaysAlgorithm x

-- What is tolerated in a header although it is not meant to be there.
inductive Deviates : Json → Prop
  | array (items : List Json) : Deviates (.array items)
  | algorithm {members : List (Option String × Json)} {ms : List (Option String × Json)} :
    ((some Field.algorithm.name, .object ms) ∈ members) → Deviates (.object members)

theorem shape_of_ofJson?_eq_some {h : Header} (hr : ofJson? v = some h) : Shape v := by
  simp only [ofJson?, Option.bind_eq_bind, Option.bind_eq_some_iff] at hr
  obtain ⟨ms, hm, a, ha, _⟩ := hr
  refine ⟨_, Json.holds_of_members?_eq_some hm, fun x hx => ?_⟩
  obtain ⟨⟨name, _⟩, hm, he⟩ := List.mem_map.mp hx
  simp only [Prod.mk.injEq, Option.some.injEq] at he
  obtain ⟨rfl, rfl⟩ := he
  obtain ⟨_, hr, _⟩ := (member?_nullOr_eq_some_iff rfl).mp ha
  exact (hr _ hm).imp_right <| .imp fun _ => Algorithm.ofJson?_eq_some_iff.mp

theorem proper_iff : Proper v ↔ Shape v ∧ ¬Deviates v := by
  constructor
  case mp =>
    intro ⟨members, hv, ha⟩
    subst hv
    refine ⟨⟨members, .object members, fun x hx => ?_⟩, fun hd => ?_⟩
    · exact (ha x hx).imp_right fun ⟨a, hx⟩ => ⟨a, .inl hx⟩
    · cases hd
      case algorithm hm =>
        obtain hn | ⟨_, hn⟩ := ha _ hm
        case inl => cases hn
        case inr => cases hn
  case mpr =>
    intro ⟨⟨members, hh, ha⟩, hd⟩
    cases hh
    case array  => exact absurd (.array _) hd
    case object =>
      refine ⟨members, rfl, fun x hx => ?_⟩
      obtain hn | ⟨a, hn | rfl⟩ := ha x hx
      case inl        => exact .inl hn
      case inr.inl    => exact .inr ⟨a, hn⟩
      case inr.inr    => exact absurd (.algorithm hx) hd

theorem ofJson?_of_holds (h : v.Holds (Field.header.map Field.name) members) :
    ofJson? v = ofJson? (.object members) := by
  simp only [ofJson?, h.members?_eq]

end Header

namespace Claims

def Proper (v : Json) : Prop :=
  ∃ members, v = .object members

def Shape (v : Json) : Prop :=
  ∃ members, v.Holds (Field.payload.map Field.name) members

theorem proper_iff : Proper v ↔ Shape v ∧ ∀ items, v ≠ .array items := by
  constructor
  case mp =>
    intro ⟨members, hv⟩
    subst hv
    exact ⟨⟨members, .object members⟩, nofun⟩
  case mpr =>
    intro ⟨⟨members, hh⟩, hn⟩
    cases hh
    case object => exact ⟨members, rfl⟩
    case array  => exact absurd rfl <| hn _

theorem shape_of_ofJson?_eq_some {c : Claims} (hr : ofJson? v = some c) : Shape v := by
  simp only [ofJson?, Option.bind_eq_bind, Option.bind_eq_some_iff] at hr
  obtain ⟨ms, hm, _⟩ := hr
  exact ⟨_, Json.holds_of_members?_eq_some hm⟩

theorem ofJson?_of_holds (h : v.Holds (Field.payload.map Field.name) members) :
    ofJson? v = ofJson? (.object members) := by
  simp only [ofJson?, h.members?_eq]

end Claims

namespace AccessToken

variable {segment : List Char} {Shape : Json → Prop}

-- The segment is the encoded form of a document of the shape.
def Encodes (segment : List Char) (Shape : Json → Prop) : Prop :=
  ∃ v, (Base64Url.decode? segment).bind Json.read? = some v ∧ Shape v

theorem encodes_iff (h : (Base64Url.decode? segment).bind Json.read? = some v) :
    Encodes segment Shape ↔ Shape v := by
  simp only [Encodes, h, Option.some.injEq, exists_eq_left']

theorem encodes_of_readSegment_eq_ok {ofJson? : Json → Option α} {x : α}
    (hs : ∀ {v}, ofJson? v = some x → Shape v) (hr : readSegment segment ofJson? = .ok x) :
    Encodes segment Shape := by
  obtain ⟨bs, hd, hj⟩ := readSegment_eq_ok_iff.mp hr
  obtain ⟨v, hv, hx⟩ := Option.bind_eq_some_iff.mp hj
  exact ⟨v, Option.bind_eq_some_iff.mpr ⟨bs, hd, hv⟩, hs hx⟩

theorem exists_readSegment_eq_error {ofJson? : Json → Option α}
    (hs : ∀ {v x}, ofJson? v = some x → Shape v) (he : ¬Encodes segment Shape) :
    ∃ fault, readSegment segment ofJson? = .error fault :=
  Except.exists_eq_error_of_ne_ok fun _ hr => he <| encodes_of_readSegment_eq_ok hs hr

-- What is read is of the shape that is tolerated, and so of the one that is meant unless it holds
-- an array or an algorithm that is an object. Whatever is not tolerated in the header or the
-- payload is blamed on that part. An array in the place of an object says the same as the object
-- would, and so does an algorithm in the place of its name.
theorem read_shape (s : String) :
    (∀ t, read s = .ok t → ∃ h p g, Segments.split s.toList = [h, p, g] ∧
      Encodes h Header.Shape ∧ Encodes p Claims.Shape) ∧
    (∀ h p g, Segments.split s.toList = [h, p, g] →
      (¬Encodes h Header.Shape → ∃ fault, read s = .error (.header fault)) ∧
      (∀ header, readSegment h Header.ofJson? = .ok header → ¬Encodes p Claims.Shape →
        ∃ fault, read s = .error (.payload fault))) ∧
    (∀ v, (Header.Proper v ↔ Header.Shape v ∧ ¬Header.Deviates v) ∧
      (Claims.Proper v ↔ Claims.Shape v ∧ ∀ items, v ≠ .array items)) ∧
    ∀ v members,
      (v.Holds (Field.header.map Field.name) members →
        Header.ofJson? v = Header.ofJson? (.object members)) ∧
      (v.Holds (Field.payload.map Field.name) members →
        Claims.ofJson? v = Claims.ofJson? (.object members)) ∧
      ∀ a, Algorithm.ofJson? v = some a ↔
        v = .text a.name ∨ v = .object [(some a.name, .null)] := by
  refine ⟨?_, ?_, fun _ => ⟨Header.proper_iff, Claims.proper_iff⟩, fun _ _ =>
    ⟨Header.ofJson?_of_holds, Claims.ofJson?_of_holds, fun _ => Algorithm.ofJson?_eq_some_iff⟩⟩
  · intro t ht
    have ⟨h, p, g, hs, hh, hp, _⟩ := read_eq_ok_iff.mp ht
    exact ⟨h, p, g, hs, encodes_of_readSegment_eq_ok Header.shape_of_ofJson?_eq_some hh,
      encodes_of_readSegment_eq_ok Claims.shape_of_ofJson?_eq_some hp⟩
  · intro h p g hs
    constructor
    · intro he
      have ⟨fault, hf⟩ := exists_readSegment_eq_error Header.shape_of_ofJson?_eq_some he
      exact ⟨fault, read_eq_error_header hs hf⟩
    · intro header hh he
      have ⟨fault, hf⟩ := exists_readSegment_eq_error Claims.shape_of_ofJson?_eq_some he
      exact ⟨fault, read_eq_error_payload hs hh hf⟩

-- The header is null, then the payload, and then the header is an array.
theorem read_shape_of_null :
    (∃ fault, read "bnVsbA.e30.AAAA" = .error (.header fault)) ∧
    (∃ fault, read "e30.bnVsbA.AAAA" = .error (.payload fault)) ∧
    ∃ h p g, Segments.split "W10.e30.AAAA".toList = [h, p, g] ∧
      Encodes h Header.Shape ∧ Encodes p Claims.Shape := by
  have hn : (Base64Url.decode? "bnVsbA".toList).bind Json.read? = some .null := rfl
  have hs : Segments.split "e30.bnVsbA.AAAA".toList =
      ["e30".toList, "bnVsbA".toList, "AAAA".toList] := rfl
  have hh : readSegment "e30".toList Header.ofJson? = .ok {} := rfl
  refine ⟨?_, ?_, ?_⟩
  · refine ((read_shape _).2.1 "bnVsbA".toList "e30".toList "AAAA".toList rfl).1 ?_
    exact mt (encodes_iff hn).mp fun ⟨_, h, _⟩ => nomatch h
  · refine ((read_shape _).2.1 _ _ _ hs).2 _ hh ?_
    exact mt (encodes_iff hn).mp fun ⟨_, h⟩ => nomatch h
  · exact (read_shape _).1 _ (rfl : read "W10.e30.AAAA" = .ok _)

-- An empty array passes for a header and for a payload, and an object for an algorithm.
theorem read_deviating :
    (∃ t h p g, read "W10.e30.AAAA" = .ok t ∧
      Segments.split "W10.e30.AAAA".toList = [h, p, g] ∧ ¬Encodes h Header.Proper) ∧
    (∃ t h p g, read "e30.W10.AAAA" = .ok t ∧
      Segments.split "e30.W10.AAAA".toList = [h, p, g] ∧ ¬Encodes p Claims.Proper) ∧
    ∃ t h p g, read "eyJhbGciOnsiSFMyNTYiOm51bGx9fQ.e30.AAAA" = .ok t ∧
      Segments.split "eyJhbGciOnsiSFMyNTYiOm51bGx9fQ.e30.AAAA".toList = [h, p, g] ∧
      ¬Encodes h Header.Proper := by
  have ha : (Base64Url.decode? "W10".toList).bind Json.read? = some (.array []) := rfl
  have hd : Base64Url.decode? "eyJhbGciOnsiSFMyNTYiOm51bGx9fQ".toList =
      some (Utf8.encode "\x7b\"alg\":\x7b\"HS256\":null\x7d\x7d".toList) := by
    decide +kernel
  have ho : (Base64Url.decode? "eyJhbGciOnsiSFMyNTYiOm51bGx9fQ".toList).bind Json.read? =
      some (.object [(some "alg", .object [(some "HS256", .null)])]) := by
    rw [hd]
    rfl
  refine ⟨⟨_, "W10".toList, "e30".toList, "AAAA".toList, rfl, rfl, ?_⟩,
    ⟨_, "e30".toList, "W10".toList, "AAAA".toList, rfl, rfl, ?_⟩,
    ⟨_, "eyJhbGciOnsiSFMyNTYiOm51bGx9fQ".toList, "e30".toList, "AAAA".toList, rfl, rfl, ?_⟩⟩
  · exact mt (encodes_iff ha).mp fun ⟨_, h, _⟩ => nomatch h
  · exact mt (encodes_iff ha).mp fun ⟨_, h⟩ => nomatch h
  · exact mt (encodes_iff ho).mp fun h => (Header.proper_iff.mp h).2 <| .algorithm <| .head _

end AccessToken
end TokenLifecycle
