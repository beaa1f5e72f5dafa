import Mathlib.Data.String.Basic
import TokenLifecycle.Proofs.Token.Signing

namespace TokenLifecycle

namespace Base64Url

theorem utf8Size_toChar : ∀ x : Sextet, x.toChar.utf8Size = 1 := by
  decide +kernel

theorem utf8Len_map_toChar (xs : List Sextet) :
    String.utf8Len (xs.map Sextet.toChar) = xs.length := by
  induction xs
  case nil          => rfl
  case cons x xs hi =>
    rw [List.map_cons, String.utf8Len_cons, hi, utf8Size_toChar, List.length_cons]

-- Every character of an encoded form is a single byte.
theorem utf8Len_encode (bs : Bytes) : String.utf8Len (encode bs) = encodedLength bs.length := by
  rw [encode, utf8Len_map_toChar, length_split]

end Base64Url

namespace AccessToken

variable {k : Key}

theorem exists_assemble_eq_ok (hk : ¬k.Empty) (header payload : Bytes) (a : Algorithm) :
    ∃ token, assemble header payload a k = .ok token ∧
      token.utf8ByteSize = assembledLength header.length payload.length a := by
  have hd : '.'.utf8Size = 1 := rfl
  refine ⟨_, assemble_eq_ok hk header payload a, ?_⟩
  simp only [String.utf8ByteSize_ofList, String.utf8Len_append, String.utf8Len_cons, hd,
    Base64Url.utf8Len_encode, k.length_mac, assembledLength]
  omega

-- A token takes up as many bytes as could be told beforehand, whatever its documents are. The
-- length of an encoded form follows from the number of bytes, and that of a signature from the
-- algorithm.
theorem assemble_keeps_length (hk : ¬k.Empty) (a : Algorithm) :
    (∀ bs, (Base64Url.encode bs).length = Base64Url.encodedLength bs.length) ∧
    (∀ header payload, ∃ token, assemble header payload a k = .ok token ∧
      token.utf8ByteSize = assembledLength header.length payload.length a) ∧
    ∀ (h : Header) (c : Claims), ∃ token, c.sign h a k = .ok token ∧
      token.utf8ByteSize =
        assembledLength (Utf8.encode h.written).length (Utf8.encode c.written).length a := by
  refine ⟨Base64Url.length_encode, fun header payload => ?_, fun h c => ?_⟩
  · exact exists_assemble_eq_ok hk header payload a
  · exact exists_assemble_eq_ok hk (Utf8.encode h.written) (Utf8.encode c.written) a

-- The bytes of the first document make whole groups, and those of the second do not.
theorem assemble_keeps_length_of_no_claims :
    let k : Key    := ⟨[0x6b]⟩
    let h : Header := .ofAlgorithm .hs384
    let c : Claims := {}
    ¬k.Empty ∧ (Utf8.encode h.written).length = 27 ∧ (Utf8.encode c.written).length = 2 ∧
      ∃ token, c.sign h .hs384 k = .ok token ∧ token.utf8ByteSize = 36 + 3 + 64 + 2 := by
  intro k h c
  have hk : ¬k.Empty := by decide
  have hh : (Utf8.encode h.written).length = 27 := by decide +kernel
  have hc : (Utf8.encode c.written).length = 2 := by decide +kernel
  have ⟨token, hs, hl⟩ := (assemble_keeps_length hk .hs384).2.2 h c
  rw [hh, hc] at hl
  exact ⟨hk, hh, hc, token, hs, hl⟩

end AccessToken
end TokenLifecycle
