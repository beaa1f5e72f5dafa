import TokenLifecycle.Claims.Wire
import TokenLifecycle.Proofs.Json.Document
import TokenLifecycle.Proofs.Json.Members

namespace TokenLifecycle

open Json
open List (Forall₂)

namespace Field

variable {f g : Field} {v : Option Json} {vs : List (Field × Option Json)}

theorem name_injective (h : f.name = g.name) : f = g := by
  cases f <;> cases g <;> first | rfl | exact absurd h (by decide)

-- The members of a document for a field with a value, which are none if the value is absent.
def entry (f : Field) (v : Option Json) : List (String × Json) :=
  (v.map (f.name, ·)).toList

def entries (vs : List (Field × Option Json)) : List (String × Json) :=
  vs.flatMap fun (f, v) => f.entry v

theorem filter_entry_self : (f.entry v).filter (·.1 = f.name) = f.entry v := by
  cases v <;> simp [entry]

theorem filter_entry_of_ne (h : g ≠ f) : (g.entry v).filter (·.1 = f.name) = [] := by
  have hn : g.name ≠ f.name := mt name_injective h
  cases v <;> simp [entry, hn]

theorem filter_entries_of_not_mem (h : f ∉ vs.map Prod.fst) :
    (entries vs).filter (·.1 = f.name) = [] := by
  induction vs
  case nil => rfl
  case cons v vs hi =>
    have ⟨hv, hs⟩ : f ≠ v.1 ∧ f ∉ vs.map Prod.fst := by simpa using h
    rw [entries, List.flatMap_cons, List.filter_append, filter_entry_of_ne (Ne.symm hv)]
    exact hi hs

-- A field that occurs once is found with its value, whatever stands around it.
theorem filter_entries (hn : (vs.map Prod.fst).Nodup) (hm : (f, v) ∈ vs) :
    (entries vs).filter (·.1 = f.name) = f.entry v := by
  induction vs
  case nil => cases hm
  case cons w vs hi =>
    have ⟨hw, hn⟩ := List.nodup_cons.mp hn
    rw [entries, List.flatMap_cons, List.filter_append]
    cases hm
    case head    =>
      have := filter_entries_of_not_mem hw
      rw [entries] at this
      rw [filter_entry_self, this, List.append_nil]
    case tail hm =>
      have hf : w.1 ≠ f := fun hf => hw <| hf ▸ List.mem_map_of_mem hm
      rw [filter_entry_of_ne hf]
      exact hi hn hm

theorem member?_entries (hn : (vs.map Prod.fst).Nodup) (hm : (f, v) ∈ vs) (absent : α)
    (read? : Json → Option α) :
    member? (entries vs) f.name absent read? = v.elim (some absent) read? := by
  rw [member?, filter_entries hn hm]
  cases v <;> rfl

-- A value that may be absent is read as if it had to be there, as long as it is not taken for null.
theorem member?_entries_map {x : Option α} {document : α → Json} {read? : Json → Option β}
    {g : α → β} (hn : (vs.map Prod.fst).Nodup) (hm : (f, x.map document) ∈ vs)
    (hd : ∀ x, document x ≠ null) (hr : ∀ x, read? (document x) = some (g x)) :
    member? (entries vs) f.name none (nullOr read?) = some (x.map g) := by
  rw [member?_entries hn hm]
  cases x
  case none   => rfl
  case some x =>
    have : nullOr read? (document x) = (read? (document x)).map some := by
      unfold nullOr
      split
      case h_1 h => exact absurd h (hd x)
      case h_2   => rfl
    rw [Option.map_some, Option.elim_some, this, hr]
    rfl

theorem documents_member {written : α → List Char} {document : α → Json}
    (h : ∀ x, Reads (Utf8.encode <| written x) (document x)) (f : Field) (x : Option α) :
    Forall₂ Documents (f.member <| x.map written) (f.entry <| x.map document) := by
  cases x
  case none   => exact .nil
  case some x => exact .cons ⟨rfl, h x⟩ .nil

end Field

theorem Json.members?_record (names : List String) (ms : List (String × Json)) :
    (record ms).members? names = some ms := by
  simp only [record, members?]
  induction ms
  case nil => rfl
  case cons m ms hi => simp [hi]

theorem Json.text_ne_null (s : String) : text s ≠ null :=
  nofun

theorem Json.text?_text (s : String) : text? (text s) = some s :=
  rfl

namespace Instant

def document (t : Instant) : Json :=
  .number t.seconds

theorem reads_written (t : Instant) : Reads (Utf8.encode t.written) t.document :=
  reads_natural t.seconds

theorem document_ne_null (t : Instant) : t.document ≠ null :=
  nofun

theorem ofJson?_document (t : Instant) : ofJson? t.document = some t :=
  ofNat?_seconds t

end Instant

namespace Availability

def document (av : Availability) : Json :=
  av.toInstant.document

-- What is left of a ceiling once it was written down.
def readBack (av : Availability) : Availability :=
  if av = bounded .epoch then unbounded else av

theorem readBack_of_ne {av : Availability} (h : av ≠ bounded .epoch) : av.readBack = av :=
  if_neg h

theorem ofInstant_toInstant_eq_readBack (av : Availability) :
    ofInstant av.toInstant = av.readBack := by
  by_cases h : av = bounded .epoch
  case pos => subst h; rfl
  case neg => rw [ofInstant_toInstant h, readBack_of_ne h]

theorem reads_written (av : Availability) : Reads (Utf8.encode av.written) av.document :=
  av.toInstant.reads_written

theorem document_ne_null (av : Availability) : av.document ≠ null :=
  nofun

theorem ofJson?_document (av : Availability) : ofJson? av.document = some av.readBack := by
  rw [ofJson?, document, Instant.ofJson?_document, Option.map_some, ofInstant_toInstant_eq_readBack]

theorem readBack_of_ofJson?_eq_some {v : Json} {av : Availability} (h : ofJson? v = some av) :
    av.readBack = av := by
  obtain ⟨t, _, rfl⟩ := Option.map_eq_some_iff.mp h
  exact readBack_of_ne <| ofInstant_ne_bounded_epoch t

end Availability

namespace Algorithm

def document (a : Algorithm) : Json :=
  .text a.name

theorem reads_written (a : Algorithm) : Reads (Utf8.encode a.written) a.document :=
  reads_text a.name

theorem document_ne_null (a : Algorithm) : a.document ≠ null :=
  nofun

theorem ofJson?_document (a : Algorithm) : ofJson? a.document = some a :=
  ofName?_eq_some_iff.mpr rfl

end Algorithm

namespace Audiences

def texts (as : List String) : List Json :=
  as.map fun (a : String) => .text a

def document : List String → Json
  | [a] => .text a
  | as  => .array <| texts as

theorem reads_array_texts (as : List String) :
    Reads (Utf8.encode <| Written.array <| as.map Written.text) (.array <| texts as) := by
  apply reads_array
  simp only [texts, List.forall₂_map_left_iff, List.forall₂_map_right_iff, List.forall₂_same]
  exact fun a _ => reads_text a

theorem reads_written : (as : List String) → Reads (Utf8.encode <| written as) (document as)
  | []          => reads_array_texts []
  | [a]         => reads_text a
  | a :: b :: r => reads_array_texts (a :: b :: r)

theorem ofJson?_array_texts (as : List String) : ofJson? (.array <| texts as) = some as := by
  simp only [ofJson?, text?, texts?, Option.map_none, Option.none_or]
  induction as
  case nil          => rfl
  case cons a as hi => simp_all [texts, text?]

theorem ofJson?_document : (as : List String) → ofJson? (document as) = some as
  | []          => ofJson?_array_texts []
  | [_]         => rfl
  | a :: b :: r => ofJson?_array_texts (a :: b :: r)

end Audiences

namespace Header

def values (h : Header) : List (Field × Option Json) := [
  (.algorithm, h.algorithm.map Algorithm.document),
  (.kind, h.kind.map fun (s : String) => .text s)]

def document (h : Header) : Json :=
  record <| Field.entries h.values

theorem read?_written (h : Header) : read? (Utf8.encode h.written) = some h.document := by
  apply (reads_object _).read?
  simp only [values, Field.entries, List.flatMap_cons, List.flatMap_nil, List.append_nil]
  apply List.rel_append (Field.documents_member Algorithm.reads_written ..)
  exact Field.documents_member reads_text ..

theorem ofJson?_document (h : Header) : ofJson? h.document = some h := by
  have hn : (h.values.map Prod.fst).Nodup := (by decide : Field.header.Nodup)
  have ha := Field.member?_entries_map hn (.head _) Algorithm.document_ne_null
    Algorithm.ofJson?_document
  have hk := Field.member?_entries_map hn (.tail _ <| .head _) text_ne_null text?_text
  simp only [ofJson?, document, members?_record, Option.bind_eq_bind, Option.bind_some, ha, hk]
  simp

end Header

namespace Claims

-- What is left of the claims once they were written down.
def readBack (c : Claims) : Claims :=
  { c with availability := c.availability.map .readBack }

def values (c : Claims) : List (Field × Option Json) :=
  let text (s : String) := Json.text s
  let audiences := if c.audiences = [] then none else some <| Audiences.document c.audiences
  [(.issuer, c.issuer.map text),
   (.subject, c.subject.map text),
   (.audience, audiences),
   (.issuedAt, c.issuedAt.map Instant.document),
   (.expiry, c.expiry.map Instant.document),
   (.refreshDeadline, c.refreshDeadline.map Instant.document),
   (.availability, c.availability.map Availability.document),
   (.principal, c.principal.map text)]

def document (c : Claims) : Json :=
  record <| Field.entries c.values

theorem documents_audiences (as : List String) :
    Forall₂ Documents
      (Field.audience.member <| if as = [] then none else some <| Audiences.written as)
      (Field.audience.entry <| if as = [] then none else some <| Audiences.document as) := by
  split
  case isTrue  => exact .nil
  case isFalse => exact Field.documents_member Audiences.reads_written .audience (some as)

theorem read?_written (c : Claims) : read? (Utf8.encode c.written) = some c.document := by
  apply (reads_object _).read?
  simp only [List.append_assoc, values, Field.entries, List.flatMap_cons, List.flatMap_nil,
    List.append_nil]
  apply List.rel_append (Field.documents_member reads_text ..)
  apply List.rel_append (Field.documents_member reads_text ..)
  apply List.rel_append (documents_audiences c.audiences)
  apply List.rel_append (Field.documents_member Instant.reads_written ..)
  apply List.rel_append (Field.documents_member Instant.reads_written ..)
  apply List.rel_append (Field.documents_member Instant.reads_written ..)
  apply List.rel_append (Field.documents_member Availability.reads_written ..)
  exact Field.documents_member reads_text ..

theorem elim_audiences (as : List String) :
    (if as = [] then none else some <| Audiences.document as).elim (some []) Audiences.ofJson? =
      some as := by
  split
  case isTrue h => exact congrArg some h.symm
  case isFalse  => exact Audiences.ofJson?_document as

-- No claim is lost or taken for another, and only a ceiling at the epoch is not what it was.
theorem ofJson?_document (c : Claims) : ofJson? c.document = some c.readBack := by
  have hn : (c.values.map Prod.fst).Nodup := (by decide : Field.payload.Nodup)
  have text (f : Field) (x : Option String)
      (hm : (f, x.map fun (s : String) => .text s) ∈ c.values) :=
    Field.member?_entries_map hn hm text_ne_null text?_text
  have instant (f : Field) (x : Option Instant) (hm : (f, x.map Instant.document) ∈ c.values) :=
    Field.member?_entries_map hn hm Instant.document_ne_null Instant.ofJson?_document
  have audiences : member? (Field.entries c.values) Field.audience.name [] Audiences.ofJson? =
      some c.audiences :=
    (Field.member?_entries hn (by simp [values]) ..).trans (elim_audiences c.audiences)
  have availability := Field.member?_entries_map (f := .availability) (x := c.availability) hn
    (by simp [values]) Availability.document_ne_null Availability.ofJson?_document
  simp only [ofJson?, document, members?_record, Option.bind_eq_bind, Option.bind_some,
    text .issuer c.issuer (by simp [values]), text .subject c.subject (by simp [values]), audiences,
    instant .issuedAt c.issuedAt (by simp [values]), instant .expiry c.expiry (by simp [values]),
    instant .refreshDeadline c.refreshDeadline (by simp [values]), availability,
    text .principal c.principal (by simp [values])]
  simp [readBack]

-- Claims that were read, in whatever form, do not change any more when they are written down.
theorem readBack_of_ofJson?_eq_some {v : Json} {c : Claims} (h : ofJson? v = some c) :
    c.readBack = c := by
  simp only [ofJson?, Option.bind_eq_bind, Option.bind_eq_some_iff] at h
  obtain ⟨_, _, _, _, _, _, _, _, _, _, _, _, _, _, av, ha, _, _, h⟩ := h
  cases h
  cases av
  case none    => rfl
  case some av =>
    have ⟨_, _, hm⟩ := (member?_nullOr_eq_some_iff rfl).mp ha
    have ⟨_, _, ha⟩ := (hm av).mp rfl
    simp only [readBack, Option.map_some, Availability.readBack_of_ofJson?_eq_some ha]

end Claims
end TokenLifecycle
