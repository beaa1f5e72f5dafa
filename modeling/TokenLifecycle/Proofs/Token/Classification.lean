import TokenLifecycle.Proofs.Text.Places
import TokenLifecycle.Proofs.Token.Reading

namespace TokenLifecycle

namespace Base64Url

variable {cs : List Char} {bs : Bytes}

-- The text is a written form of the bytes: their encoded form, with or without some padding.
def Spells (cs : List Char) (bs : Bytes) : Prop :=
  ∃ n ≤ maxPadding (encodedLength bs.length), cs = encode bs ++ List.replicate n '='

theorem spells_iff : Spells cs bs ↔ decode? cs = some bs :=
  decode?_eq_some_iff.symm

theorem decode?_eq_none_iff : decode? cs = none ↔ ∀ bs, ¬Spells cs bs := by
  simp only [spells_iff, Option.eq_none_iff_forall_ne_some, ne_eq]

theorem spells_nil_iff : Spells [] bs ↔ bs = [] := by
  have hd : decode? [] = some [] := decode?_encode []
  rw [spells_iff, hd, Option.some.injEq, eq_comm]

end Base64Url

namespace Segments

variable {cs h p g : List Char}

-- The text is made of three parts, with a dot between them and without any other dots.
structure Parts (cs h p g : List Char) : Prop where
  fst_dotless : '.' ∉ h
  snd_dotless : '.' ∉ p
  trd_dotless : '.' ∉ g
  eq          : cs = h ++ '.' :: (p ++ '.' :: g)

theorem parts_iff : Parts cs h p g ↔ split cs = [h, p, g] := by
  rw [split_eq_triple_iff]
  exact ⟨fun ⟨hh, hp, hg, hc⟩ => ⟨⟨hh, hp, hg⟩, hc⟩, fun ⟨⟨hh, hp, hg⟩, hc⟩ => ⟨hh, hp, hg, hc⟩⟩

theorem exists_parts_iff : (∃ h p g, Parts cs h p g) ↔ cs.count '.' = 2 := by
  have hl := length_split cs
  simp only [parts_iff]
  constructor
  case mp =>
    intro ⟨h, p, g, hs⟩
    rw [hs] at hl
    exact (Nat.succ.inj hl).symm
  case mpr =>
    intro hc
    rw [hc] at hl
    exact List.length_eq_three.mp hl

end Segments

namespace AccessToken

open Base64Url (Spells)
open Segments (Parts)

variable {segment h p g : List Char} {s : String} {outcome : Except Malformed AccessToken}

-- The segment is a written form of bytes that are a document, and the document is read as `x`.
def Denotes (segment : List Char) (ofJson? : Json → Option α) (x : α) : Prop :=
  ∃ bs v, Spells segment bs ∧ Json.read? bs = some v ∧ ofJson? v = some x

-- What is wrong with a segment that denotes nothing.
inductive Garbled (segment : List Char) (ofJson? : Json → Option α) : Fault → Prop
  | encoding : (∀ bs, ¬Spells segment bs) → Garbled segment ofJson? .encoding
  | content {bs : Bytes} : Spells segment bs → (∀ v, Json.read? bs = some v → ofJson? v = none) →
    Garbled segment ofJson? .content

theorem readSegment_eq_ok_iff_denotes {ofJson? : Json → Option α} {x : α} :
    readSegment segment ofJson? = .ok x ↔ Denotes segment ofJson? x := by
  rw [readSegment_eq_ok_iff, Denotes]
  simp only [Base64Url.spells_iff, Option.bind_eq_some_iff, exists_and_left]

theorem readSegment_eq_error_iff {ofJson? : Json → Option α} {fault : Fault} :
    readSegment segment ofJson? = .error fault ↔ Garbled segment ofJson? fault := by
  constructor
  case mp =>
    intro he
    unfold readSegment at he
    split at he
    case h_1 hd    =>
      cases he
      exact .encoding <| Base64Url.decode?_eq_none_iff.mp hd
    case h_2 bs hd =>
      split at he
      case h_1 hj =>
        cases he
        exact .content (Base64Url.spells_iff.mpr hd) (Option.bind_eq_none_iff.mp hj)
      case h_2    => cases he
  case mpr =>
    intro he
    unfold readSegment
    cases he
    case encoding hn   => rw [Base64Url.decode?_eq_none_iff.mpr hn]
    case content hs hn =>
      simp only [Base64Url.spells_iff.mp hs, Option.bind_eq_none_iff.mpr hn]

-- What becomes of a text that is made of three parts. The first part that cannot be read is to
-- blame.
inductive Outcome (s : String) (h p g : List Char) : Except Malformed AccessToken → Prop
  | header {fault : Fault} : Garbled h Header.ofJson? fault →
    Outcome s h p g (.error <| .header fault)
  | payload {header : Header} {fault : Fault} : Denotes h Header.ofJson? header →
    Garbled p Claims.ofJson? fault → Outcome s h p g (.error <| .payload fault)
  | signature {header : Header} {claims : Claims} : Denotes h Header.ofJson? header →
    Denotes p Claims.ofJson? claims → (∀ bs, ¬Spells g bs) → Outcome s h p g (.error .signature)
  | token {header : Header} {claims : Claims} {signature : Bytes} :
    Denotes h Header.ofJson? header → Denotes p Claims.ofJson? claims → Spells g signature →
    Outcome s h p g (.ok ⟨s, .ofList <| h ++ '.' :: p, header, claims, signature⟩)

theorem Outcome.read_eq (hs : Parts s.toList h p g) (ho : Outcome s h p g outcome) :
    read s = outcome := by
  have hs := Segments.parts_iff.mp hs
  cases ho
  case header hf => exact read_eq_error_header hs <| readSegment_eq_error_iff.mpr hf
  case payload hh hf =>
    exact read_eq_error_payload hs (readSegment_eq_ok_iff_denotes.mpr hh)
      (readSegment_eq_error_iff.mpr hf)
  case signature hh hp hg =>
    simp only [read, hs, readSegment_eq_ok_iff_denotes.mpr hh, readSegment_eq_ok_iff_denotes.mpr hp,
      Base64Url.decode?_eq_none_iff.mpr hg]
    rfl
  case token hh hp hg =>
    exact read_eq_ok_iff.mpr ⟨h, p, g, hs, readSegment_eq_ok_iff_denotes.mpr hh,
      readSegment_eq_ok_iff_denotes.mpr hp, Base64Url.spells_iff.mp hg, rfl, rfl⟩

theorem exists_outcome (s : String) (h p g : List Char) : ∃ outcome, Outcome s h p g outcome := by
  cases hh : readSegment h Header.ofJson?
  case error => exact ⟨_, .header <| readSegment_eq_error_iff.mp hh⟩
  case ok    =>
    have hh := readSegment_eq_ok_iff_denotes.mp hh
    cases hp : readSegment p Claims.ofJson?
    case error => exact ⟨_, .payload hh <| readSegment_eq_error_iff.mp hp⟩
    case ok    =>
      have hp := readSegment_eq_ok_iff_denotes.mp hp
      cases hg : Base64Url.decode? g
      case none => exact ⟨_, .signature hh hp <| Base64Url.decode?_eq_none_iff.mp hg⟩
      case some => exact ⟨_, .token hh hp <| Base64Url.spells_iff.mpr hg⟩

theorem read_eq_iff_outcome (hs : Parts s.toList h p g) :
    read s = outcome ↔ Outcome s h p g outcome where
  mp hr := by
    have ⟨_, ho⟩ := exists_outcome s h p g
    exact hr ▸ ho.read_eq hs ▸ ho
  mpr   := (·.read_eq hs)

theorem read_eq_error_segments_iff : read s = .error .segments ↔ s.toList.count '.' ≠ 2 := by
  rw [ne_eq, ← Segments.exists_parts_iff]
  constructor
  case mp =>
    intro hr ⟨h, p, g, hs⟩
    exact nomatch (read_eq_iff_outcome hs).mp hr
  case mpr =>
    intro hn
    unfold read
    split
    case h_1 h p g hs => exact absurd ⟨h, p, g, Segments.parts_iff.mpr hs⟩ hn
    case h_2          => rfl

-- A token as it is kept. Its message is no text of its own but the first bytes of the whole, of
-- which only the number is kept.
@[ext]
structure Sliced where
  encoded       : String
  messageLength : Nat
  header        : Header
  claims        : Claims
  signature     : Bytes

-- There is no message if that many bytes end within a character.
def Sliced.message? (t : Sliced) : Option String :=
  (Utf8.before? t.messageLength t.encoded.toList).map .ofList

-- A text is cut at the last dot, and what stands before it once more, so there may still be dots in
-- the first of three parts. There is no answer if a cut would go through a character.
def slice? (s : String) : Option (Except Malformed Sliced) := do
  let some (message, g) ← Utf8.cutAtLastDot? s.toList | return .error .segments
  let some (h, p)       ← Utf8.cutAtLastDot? message  | return .error .segments
  if '.' ∈ h then
    return .error .segments
  return do
    let header    ← (readSegment h Header.ofJson?).mapError .header
    let claims    ← (readSegment p Claims.ofJson?).mapError .payload
    let signature ← (Base64Url.decode? g).elim (.error .signature) .ok
    return { encoded := s, messageLength := Utf8.size message, header, claims, signature }

-- The token with the number of the bytes of its message in place of the message.
def sliced (t : AccessToken) : Sliced where
  encoded       := t.encoded
  messageLength := Utf8.size t.message.toList
  header        := t.header
  claims        := t.claims
  signature     := t.signature

theorem slice?_of_parts (hs : Parts s.toList h p g) : slice? s = some ((read s).map sliced) := by
  have hm : s.toList = (h ++ '.' :: p) ++ '.' :: g := by simp [hs.eq]
  simp only [slice?, read, Segments.parts_iff.mp hs, Option.bind_eq_bind]
  rw [hm, Utf8.cutAtLastDot?_append_dot _ hs.trd_dotless]
  simp only [Option.bind_some, Utf8.cutAtLastDot?_append_dot _ hs.snd_dotless,
    if_neg hs.fst_dotless]
  cases readSegment h Header.ofJson?
  case error => rfl
  case ok    =>
    cases readSegment p Claims.ofJson?
    case error => rfl
    case ok    =>
      cases Base64Url.decode? g
      case none => rfl
      case some =>
        have hl : Utf8.size (h ++ '.' :: p) = Utf8.size (String.ofList (h ++ '.' :: p)).toList :=
          congrArg _ String.toList_ofList.symm
        rw [hl]
        rfl

-- Each cut that does not come about and each dot that is left over rule out three parts.
theorem slice?_of_not_parts (hn : ∀ h p g, ¬Parts s.toList h p g) :
    slice? s = some (.error .segments) := by
  rw [slice?]
  by_cases hs : '.' ∈ s.toList
  case neg =>
    rw [Utf8.cutAtLastDot?_of_not_mem hs]
    rfl
  case pos =>
    have ⟨m, g, hg, hc⟩ := Segments.exists_last_dot hs
    simp only [hc, Utf8.cutAtLastDot?_append_dot m hg, Option.bind_eq_bind, Option.bind_some]
    by_cases hm : '.' ∈ m
    case neg =>
      rw [Utf8.cutAtLastDot?_of_not_mem hm]
      rfl
    case pos =>
      have ⟨h, p, hp, hm⟩ := Segments.exists_last_dot hm
      simp only [hm, Utf8.cutAtLastDot?_append_dot h hp, Option.bind_some]
      by_cases hh : '.' ∈ h
      case pos => exact if_pos hh
      case neg => exact absurd ⟨hh, hp, hg, by simp [hc, hm]⟩ <| hn h p g

-- No cut goes through a character, and the cuts find what there is between the dots.
theorem slice?_eq (s : String) : slice? s = some ((read s).map sliced) := by
  by_cases hs : ∃ h p g, Parts s.toList h p g
  case pos =>
    have ⟨_, _, _, hs⟩ := hs
    exact slice?_of_parts hs
  case neg =>
    have hr : read s = .error .segments :=
      read_eq_error_segments_iff.mpr <| mt Segments.exists_parts_iff.mpr hs
    rw [slice?_of_not_parts fun h p g hp => hs ⟨h, p, g, hp⟩, hr]
    rfl

theorem slice?_eq_error_iff {e : Malformed} : slice? s = some (.error e) ↔ read s = .error e := by
  rw [slice?_eq]
  cases read s
  case error => simp [Except.map]
  case ok    => simp [Except.map]

theorem slice?_eq_ok_iff {t : Sliced} :
    slice? s = some (.ok t) ↔ ∃ t', read s = .ok t' ∧ t'.sliced = t := by
  rw [slice?_eq]
  cases read s
  case error => simp [Except.map]
  case ok    => simp [Except.map]

theorem message?_sliced {t : AccessToken} (h : read s = .ok t) :
    t.sliced.message? = some t.message := by
  have ⟨g, _, hs⟩ := exists_toList_eq_of_read h
  have ⟨_, _, _, _, _, _, _, he, _⟩ := read_eq_ok_iff.mp h
  rw [Sliced.message?, sliced, he, hs, Utf8.before?_append, Option.map_some, String.ofList_toList]

-- The message tells how many bytes it has.
theorem Sliced.messageLength_eq {t : Sliced} {cs : List Char}
    (h : t.message? = some (.ofList cs)) : t.messageLength = Utf8.size cs := by
  have ⟨_, hb, hm⟩ := Option.map_eq_some_iff.mp h
  rw [← Utf8.size_of_before?_eq_some hb, String.ofList_injective hm]

-- What becomes of a text that is made of three parts: the header, the payload and the signature are
-- read in this order, and the first of them that cannot be read is to blame, be it for its encoding
-- or for what it says. If nothing is, all that was written is in the token, and its message is cut
-- out of it as it was written.
structure Classified (s : String) (h p g : List Char) : Prop where
  header    : ∀ fault, slice? s = some (.error <| .header fault) ↔ Garbled h Header.ofJson? fault
  payload   : ∀ fault, slice? s = some (.error <| .payload fault) ↔
                (∃ header, Denotes h Header.ofJson? header) ∧ Garbled p Claims.ofJson? fault
  signature : slice? s = some (.error .signature) ↔
                (∃ header, Denotes h Header.ofJson? header) ∧
                  (∃ claims, Denotes p Claims.ofJson? claims) ∧ ∀ bs, ¬Spells g bs
  readable  : (∃ t, slice? s = some (.ok t)) ↔
                (∃ header, Denotes h Header.ofJson? header) ∧
                  (∃ claims, Denotes p Claims.ofJson? claims) ∧ ∃ bs, Spells g bs
  token     : ∀ t, slice? s = some (.ok t) ↔
                Denotes h Header.ofJson? t.header ∧ Denotes p Claims.ofJson? t.claims ∧
                  Spells g t.signature ∧ t.message? = some (.ofList <| h ++ '.' :: p) ∧
                  t.encoded = s

theorem slice?_eq_error_iff_outcome {e : Malformed} (hs : Parts s.toList h p g) :
    slice? s = some (.error e) ↔ Outcome s h p g (.error e) :=
  slice?_eq_error_iff.trans <| read_eq_iff_outcome hs

theorem slice?_eq_ok_iff_outcome {t : Sliced} (hs : Parts s.toList h p g) :
    slice? s = some (.ok t) ↔ ∃ t', Outcome s h p g (.ok t') ∧ t'.sliced = t := by
  simp only [slice?_eq_ok_iff, read_eq_iff_outcome hs]

theorem classified_of_parts (hs : Parts s.toList h p g) : Classified s h p g where
  header fault  := by
    rw [slice?_eq_error_iff_outcome hs]
    exact ⟨fun | .header hf => hf, .header⟩
  payload fault := by
    rw [slice?_eq_error_iff_outcome hs]
    exact ⟨fun | .payload hh hf => ⟨⟨_, hh⟩, hf⟩, fun ⟨⟨_, hh⟩, hf⟩ => .payload hh hf⟩
  signature     := by
    rw [slice?_eq_error_iff_outcome hs]
    exact ⟨fun | .signature hh hp hg => ⟨⟨_, hh⟩, ⟨_, hp⟩, hg⟩,
      fun ⟨⟨_, hh⟩, ⟨_, hp⟩, hg⟩ => .signature hh hp hg⟩
  readable      := by
    simp only [slice?_eq_ok_iff_outcome hs]
    constructor
    case mp  => exact fun ⟨_, _, .token hh hp hg, _⟩ => ⟨⟨_, hh⟩, ⟨_, hp⟩, ⟨_, hg⟩⟩
    case mpr => exact fun ⟨⟨_, hh⟩, ⟨_, hp⟩, ⟨_, hg⟩⟩ => ⟨_, _, .token hh hp hg, rfl⟩
  token t       := by
    rw [slice?_eq_ok_iff_outcome hs]
    constructor
    case mp  =>
      rintro ⟨t, ho, rfl⟩
      have hm := message?_sliced <| (read_eq_iff_outcome hs).mpr ho
      cases ho
      case token hh hp hg => exact ⟨hh, hp, hg, hm, rfl⟩
    case mpr =>
      intro ⟨hh, hp, hg, hm, he⟩
      refine ⟨_, .token hh hp hg, Sliced.ext he.symm ?_ rfl rfl rfl⟩
      exact (congrArg _ String.toList_ofList).trans (Sliced.messageLength_eq hm).symm

-- Every text is taken apart, and it is no token if there are not exactly two dots in it, whatever
-- stands before, between or behind them. What is cut out of its bytes is what stands between the
-- dots.
theorem slice?_classifies (s : String) :
    (slice? s = some (.error .segments) ↔ s.toList.count '.' ≠ 2) ∧
    ((∃ h p g, Parts s.toList h p g) ↔ s.toList.count '.' = 2) ∧
    (∀ h p g, Parts s.toList h p g → Classified s h p g) ∧
    (∀ bs, Spells [] bs ↔ bs = []) ∧
    slice? s = some ((read s).map sliced) ∧
    ∀ t, read s = .ok t → t.sliced.message? = some t.message :=
  ⟨slice?_eq_error_iff.trans read_eq_error_segments_iff, Segments.exists_parts_iff,
    fun _ _ _ => classified_of_parts, fun _ => Base64Url.spells_nil_iff, slice?_eq s,
    fun _ => message?_sliced⟩

-- Nothing is a signature of no bytes, but it is no document, and one more dot is one too many. A
-- part that no bytes are encoded as may have characters of any size.
theorem slice?_classifies_of_empty_parts :
    Parts "e30=.e30.".toList "e30=".toList "e30".toList [] ∧
    (∃ t, slice? "e30=.e30." = some (.ok t) ∧ t.message? = some "e30=.e30" ∧ t.signature = []) ∧
    Parts "..".toList [] [] [] ∧ slice? ".." = some (.error <| .header .content) ∧
    Parts "e30.ü.€".toList "e30".toList ['ü'] ['€'] ∧
    slice? "e30.ü.€" = some (.error <| .payload .encoding) ∧
    slice? "..." = some (.error .segments) := by
  have ht : Parts "e30=.e30.".toList "e30=".toList "e30".toList [] :=
    Segments.parts_iff.mpr rfl
  have he : Parts "..".toList [] [] [] := Segments.parts_iff.mpr rfl
  have hu : Parts "e30.ü.€".toList "e30".toList ['ü'] ['€'] := Segments.parts_iff.mpr rfl
  have hh : Denotes "e30=".toList Header.ofJson? {} :=
    ⟨[0x7b, 0x7d], .object [], Base64Url.spells_iff.mpr rfl, rfl, rfl⟩
  have hd : Denotes "e30".toList Header.ofJson? {} :=
    ⟨[0x7b, 0x7d], .object [], Base64Url.spells_iff.mpr rfl, rfl, rfl⟩
  have hp : Denotes "e30".toList Claims.ofJson? {} :=
    ⟨[0x7b, 0x7d], .object [], Base64Url.spells_iff.mpr rfl, rfl, rfl⟩
  have hn : ∀ bs, ¬Spells ['ü'] bs := Base64Url.decode?_eq_none_iff.mp rfl
  have ⟨_, _, hc, hg, _⟩ := slice?_classifies "e30=.e30."
  have ⟨_, _, hb, _⟩ := slice?_classifies ".."
  have ⟨_, _, hw, _⟩ := slice?_classifies "e30.ü.€"
  have ⟨hl, _⟩ := slice?_classifies "..."
  have hg := (hg []).mpr rfl
  have hc := hc _ _ _ ht
  have ⟨t, hr⟩ := hc.readable.mpr ⟨⟨_, hh⟩, ⟨_, hp⟩, ⟨_, hg⟩⟩
  have ⟨_, _, hs, hm, _⟩ := (hc.token t).mp hr
  refine ⟨ht, ⟨t, hr, hm, Base64Url.spells_nil_iff.mp hs⟩, he, ?_, hu, ?_, hl.mpr (by decide)⟩
  · exact ((hb _ _ _ he).header _).mpr <| .content hg nofun
  · exact ((hw _ _ _ hu).payload _).mpr ⟨⟨_, hd⟩, .encoding hn⟩

end AccessToken
end TokenLifecycle
