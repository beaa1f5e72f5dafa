import TokenLifecycle.Proofs.Claims.Members
import TokenLifecycle.Proofs.Token.Classification

namespace TokenLifecycle.AccessToken

open Base64Url (Spells)
open Claims (Acceptable Known)
open Json (record Grammar.Document)
open Json.Grammar (Blanks HexDigit Escape Character Digits Exponent Number Padded Member Value)
open Json.Grammar (padded_of character_written text_written)

variable {ms : List (String × Json)} {text segment : List Char}

theorem readSegment_of_document (ht : Grammar.Document text (record ms))
    (hs : Spells segment (Utf8.encode text)) :
    readSegment segment Claims.ofJson? =
      (Claims.ofJson? <| record ms).elim (.error .content) .ok := by
  simp only [readSegment, Base64Url.spells_iff.mp hs, ht.read?, Option.bind_some]
  cases Claims.ofJson? (record ms) <;> rfl

-- Whichever way an object is written, it is read as claims just if every claim is in it once at
-- most and is of its kind, and what is read is what is there. Neither the order of the members nor
-- any members of other names make a difference.
theorem readSegment_object (ht : Grammar.Document text (record ms))
    (hs : Spells segment (Utf8.encode text)) :
    ((∃ c, readSegment segment Claims.ofJson? = .ok c) ↔ Acceptable ms) ∧
    (∀ c, readSegment segment Claims.ofJson? = .ok c ↔ Acceptable ms ∧ c.AsWritten ms) ∧
    (readSegment segment Claims.ofJson? = .error .content ↔ ¬Acceptable ms) ∧
    ∀ text' segment' ms', Grammar.Document text' (record ms') →
      Spells segment' (Utf8.encode text') → (ms'.filter Known).Perm (ms.filter Known) →
        readSegment segment' Claims.ofJson? = readSegment segment Claims.ofJson? := by
  rw [readSegment_of_document ht hs]
  simp only [Except.elim_error_eq_ok_iff]
  refine ⟨Claims.exists_ofJson?_record_iff, fun _ => Claims.ofJson?_record_eq_some_iff, ?_, ?_⟩
  · rw [← Claims.exists_ofJson?_record_iff]
    cases Claims.ofJson? (record ms) <;> simp
  · intro text' segment' ms' ht' hs' hp
    rw [readSegment_of_document ht' hs', Claims.ofJson?_record_perm hp]

-- The same claim under a name with an escape in it, between members that are not for any claim.
theorem readSegment_object_of_escape :
    let segment (text : String) := Base64Url.encode <| Utf8.encode text.toList
    let plain := "\x7b\"iat\":7\x7d"
    let other := "\x7b \"x\":-0,\"\\u0069at\":7,\"x\":[1e3]\x7d"
    Grammar.Document plain.toList (record [("iat", .number (some 7))]) ∧
    Grammar.Document other.toList (record
      [("x", .number none), ("iat", .number (some 7)), ("x", .array [.number none])]) ∧
    readSegment (segment other) Claims.ofJson? = readSegment (segment plain) Claims.ofJson? ∧
    readSegment (segment plain) Claims.ofJson? = .ok { issuedAt := some { seconds := 7 } } := by
  intro segment plain other
  have hs (text : String) : Spells (segment text) (Utf8.encode text.toList) :=
    Base64Url.spells_iff.mpr <| Base64Url.decode?_encode _
  have seven : Value "7".toList (.number (some 7)) := .number <| .natural 7
  have minus : Value "-0".toList (.number none) :=
    .number <| @Number.other ['-'] [] [] 0 (by decide) .absent .absent (by decide)
  have exponent : Exponent "e3".toList :=
    @Exponent.digits 'e' [] ['3'] (by decide) (by decide) (by simp [Digits])
  have power : Value "1e3".toList (.number none) :=
    .number <| @Number.other [] [] _ 1 (by decide) .absent exponent (by decide)
  have hex (d : Nat) (h : d < 16) : HexDigit d.digitChar d := .lower h
  have escape : Escape "\\u0069".toList 'i'.toNat :=
    .digits (hex 0 (by decide)) (hex 0 (by decide)) (hex 6 (by decide)) (hex 9 (by decide))
  have letters : List.Forall₂ Character ["\\u0069".toList, ['a'], ['t']] "iat".toList :=
    .cons (.escape escape) <| .cons (character_written 'a') <| .cons (character_written 't') .nil
  have first : Member Value " \"x\":-0".toList ("x", .number none) :=
    .colon (@Padded.blanks _ _ [' '] _ [] _ (by simp [Blanks]) (text_written "x") nofun)
      (padded_of minus)
  have second : Member Value "\"\\u0069at\":7".toList ("iat", .number (some 7)) :=
    .colon (padded_of <| .quoted letters) (padded_of seven)
  have third : Member Value "\"x\":[1e3]".toList ("x", .array [.number none]) :=
    .colon (padded_of <| text_written "x") <| padded_of <| .array <| .cons (padded_of power) .nil
  have ht : Grammar.Document "\x7b\"iat\":7\x7d".toList (record [("iat", .number (some 7))]) :=
    padded_of <| .object <| .cons (.colon (padded_of <| text_written "iat") (padded_of seven)) .nil
  have ht' : Grammar.Document "\x7b \"x\":-0,\"\\u0069at\":7,\"x\":[1e3]\x7d".toList (record
      [("x", .number none), ("iat", .number (some 7)), ("x", .array [.number none])]) :=
    padded_of <| .object <| .cons first <| .cons second <| .cons third .nil
  have ⟨_, _, _, h⟩ := readSegment_object ht (hs plain)
  exact ⟨ht, ht', h _ _ _ ht' (hs other) (.of_eq rfl), readSegment_of_document ht (hs plain)⟩

end TokenLifecycle.AccessToken
