import TokenLifecycle.Proofs.Claims.Document
import TokenLifecycle.Proofs.Token.Judgement
import TokenLifecycle.Text.Base64Url.Lemmas

namespace TokenLifecycle

theorem Except.mapError_eq_ok_iff {x : Except ε α} {f : ε → ε'} {a : α} :
    x.mapError f = .ok a ↔ x = .ok a := by
  cases x <;> simp [Except.mapError]

theorem Except.elim_error_eq_ok_iff {ε : Type u} {α : Type v} {o : Option α} {e : ε} {a : α} :
    o.elim (Except.error e) Except.ok = .ok a ↔ o = some a := by
  cases o <;> simp

namespace AccessToken

variable {s : String} {t : AccessToken}

theorem readSegment_eq_ok_iff {segment : List Char} {ofJson? : Json → Option α} {x : α} :
    readSegment segment ofJson? = .ok x ↔
      ∃ bs, Base64Url.decode? segment = some bs ∧ (Json.read? bs).bind ofJson? = some x := by
  unfold readSegment
  split
  case h_1 hd    => simp [hd]
  case h_2 bs hd =>
    simp only [hd, Option.some.injEq, exists_eq_left']
    split
    case h_1 hj => simp [hj]
    case h_2 hj => simp [hj]

-- A text is a token if it has three parts and each of them can be read. Nothing else is in the
-- token that was not in the text.
theorem read_eq_ok_iff :
    read s = .ok t ↔ ∃ h p g, Segments.split s.toList = [h, p, g] ∧
      readSegment h Header.ofJson? = .ok t.header ∧
      readSegment p Claims.ofJson? = .ok t.claims ∧
      Base64Url.decode? g = some t.signature ∧
      t.encoded = s ∧ t.message = .ofList (h ++ '.' :: p) := by
  constructor
  case mp =>
    intro hr
    unfold read at hr
    split at hr
    case h_1 h p g hs =>
      simp only [Except.bind_eq_ok_iff, Except.mapError_eq_ok_iff,
        Except.elim_error_eq_ok_iff] at hr
      obtain ⟨header, hh, claims, hc, signature, hg, hr⟩ := hr
      cases hr
      exact ⟨h, p, g, hs, hh, hc, hg, rfl, rfl⟩
    case h_2 => cases hr
  case mpr =>
    intro ⟨h, p, g, hs, hh, hc, hg, he, hm⟩
    unfold read
    simp only [hs, hh, hc, hg]
    exact congrArg Except.ok <| AccessToken.ext he.symm hm.symm rfl rfl rfl

-- The message is all that stands before the last dot.
theorem exists_toList_eq_of_read (h : read s = .ok t) :
    ∃ g, '.' ∉ g ∧ s.toList = t.message.toList ++ '.' :: g := by
  have ⟨h, p, g, hs, _, _, _, _, hm⟩ := read_eq_ok_iff.mp h
  have ⟨hd, hc⟩ := Segments.split_eq_triple_iff.mp hs
  exact ⟨g, hd.2.2, by rw [hc, hm]; simp⟩

-- The first segment that cannot be read is to blame.

theorem read_eq_error_header {h p g : List Char} {fault : Fault}
    (hs : Segments.split s.toList = [h, p, g])
    (hh : readSegment h Header.ofJson? = .error fault) : read s = .error (.header fault) := by
  unfold read
  simp only [hs, hh]
  rfl

theorem read_eq_error_payload {h p g : List Char} {header : Header} {fault : Fault}
    (hs : Segments.split s.toList = [h, p, g])
    (hh : readSegment h Header.ofJson? = .ok header)
    (hp : readSegment p Claims.ofJson? = .error fault) : read s = .error (.payload fault) := by
  unfold read
  simp only [hs, hh, hp]
  rfl

-- The text that three segments make.
def joined (h p g : String) : String :=
  h ++ "." ++ p ++ "." ++ g

theorem toList_joined (h p g : String) :
    (joined h p g).toList = h.toList ++ '.' :: (p.toList ++ '.' :: g.toList) := by
  simp [joined]

theorem read_joined_eq_ok_iff {h p g : String} :
    read (joined h p g) = .ok t ↔
      ('.' ∉ h.toList ∧ '.' ∉ p.toList) ∧
      readSegment h.toList Header.ofJson? = .ok t.header ∧
      readSegment p.toList Claims.ofJson? = .ok t.claims ∧
      Base64Url.decode? g.toList = some t.signature ∧
      t.encoded = joined h p g ∧ t.message = h ++ "." ++ p := by
  have hm : String.ofList (h.toList ++ '.' :: p.toList) = h ++ "." ++ p := by
    simp [String.ext_iff]
  rw [read_eq_ok_iff, toList_joined]
  constructor
  case mp =>
    intro ⟨h', p', g', hs, hr⟩
    obtain ⟨rfl, rfl, rfl⟩ := Segments.eq_of_split_eq_triple hs
    have ⟨hd, _⟩ := Segments.split_eq_triple_iff.mp hs
    exact ⟨⟨hd.1, hd.2.1⟩, hm ▸ hr⟩
  case mpr =>
    intro ⟨⟨hh, hp⟩, hr⟩
    have hg : '.' ∉ g.toList := Base64Url.not_mem_of_decode?_eq_some hr.2.2.1
    exact ⟨_, _, _, Segments.split_eq_triple_iff.mpr ⟨⟨hh, hp, hg⟩, rfl⟩, hm ▸ hr⟩

theorem read_empty : read "" = .error .segments :=
  rfl

theorem readBack_claims (h : read s = .ok t) : t.claims.readBack = t.claims := by
  have ⟨_, _, _, _, _, hp, _⟩ := read_eq_ok_iff.mp h
  have ⟨_, _, hc⟩ := readSegment_eq_ok_iff.mp hp
  have ⟨_, _, hc⟩ := Option.bind_eq_some_iff.mp hc
  exact Claims.readBack_of_ofJson?_eq_some hc

end AccessToken
end TokenLifecycle
