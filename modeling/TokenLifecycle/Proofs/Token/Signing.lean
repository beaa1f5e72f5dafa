import TokenLifecycle.Proofs.Claims.Document
import TokenLifecycle.Proofs.Token.Judgement
import TokenLifecycle.Text.Base64Url.Lemmas

namespace TokenLifecycle

namespace AccessToken

theorem readSegment_encode {bs : Bytes} {j : Json} {x : α} {ofJson? : Json → Option α}
    (hr : Json.read? bs = some j) (hj : ofJson? j = some x) :
    readSegment (Base64Url.encode bs) ofJson? = .ok x := by
  simp only [readSegment, Base64Url.decode?_encode, hr, Option.bind_some, hj]

theorem assemble_eq_ok {k : Key} (hk : ¬k.Empty) (header payload : Bytes) (a : Algorithm) :
    let message := Base64Url.encode header ++ '.' :: Base64Url.encode payload
    assemble header payload a k =
      .ok (.ofList <| message ++ '.' :: Base64Url.encode (k.mac a <| Utf8.encode message)) := by
  intro message
  have hs : k.sign a (Utf8.encode message) = .ok (k.mac a <| Utf8.encode message) := if_neg hk
  rw [assemble, hs]
  rfl

end AccessToken

namespace Claims

variable (c : Claims) (h : Header) (a : Algorithm) (k : Key)

-- The part of a token that is signed.
def message : List Char :=
  Base64Url.encode (Utf8.encode h.written) ++ '.' :: Base64Url.encode (Utf8.encode c.written)

-- The token that holds the claims, as it is read.
def signed : AccessToken where
  encoded   := .ofList <| c.message h ++ '.' ::
                 Base64Url.encode (k.mac a <| Utf8.encode <| c.message h)
  message   := .ofList <| c.message h
  header    := h
  claims    := c.readBack
  signature := k.mac a <| Utf8.encode <| c.message h

theorem sign_eq_ok (hk : ¬k.Empty) : c.sign h a k = .ok (c.signed h a k).encoded :=
  AccessToken.assemble_eq_ok hk ..

theorem sign_eq_error (hk : k.Empty) : c.sign h a k = .error .emptyKey := by
  simp only [sign, AccessToken.assemble, Key.sign, if_pos hk]
  rfl

theorem read_signed : AccessToken.read (c.signed h a k).encoded = .ok (c.signed h a k) := by
  have hd (bs : Bytes) : '.' ∉ Base64Url.encode bs := fun h => (Base64Url.ne_of_mem_encode h).2 rfl
  have hh := AccessToken.readSegment_encode h.read?_written h.ofJson?_document
  have hc := AccessToken.readSegment_encode c.read?_written c.ofJson?_document
  simp only [AccessToken.read, signed, message, String.toList_ofList, List.append_assoc,
    List.cons_append, Segments.split_append_dot (hd _), Segments.split_of_not_mem (hd _), hh, hc,
    Base64Url.decode?_encode]
  rfl

theorem signature_signed :
    (c.signed h a k).signature = k.mac a (Utf8.encode (c.signed h a k).message.toList) := by
  simp only [signed, String.toList_ofList]

-- A signature is accepted under the algorithm that it was made with, and under no other.
theorem signedBy_signed_iff (b : Algorithm) :
    (c.signed h a k).SignedBy k b ↔ ¬k.Empty ∧ a = b where
  mp hb  := ⟨hb.usable, Key.Accepts.algorithm_eq ⟨hb.usable, c.signature_signed h a k⟩ hb⟩
  mpr hb := ⟨hb.1, hb.2 ▸ c.signature_signed h a k⟩

-- Whatever claims are signed, they are read back from the token, and its signature is good for the
-- algorithm that it was made with. The header may name another one, and is then not believed.
theorem sign_read (hk : ¬k.Empty) (b : Algorithm) :
    ∃ token t, c.sign (.ofAlgorithm b) a k = .ok token ∧ AccessToken.read token = .ok t ∧
      t.encoded = token ∧ t.header = .ofAlgorithm b ∧ t.claims = c.readBack ∧
      (∃ g, '.' ∉ g ∧ token.toList = t.message.toList ++ '.' :: g) ∧
      t.signature = k.mac a (Utf8.encode t.message.toList) ∧
      ((t.verify k).value = .ok () ↔ b = a) := by
  let t := c.signed (.ofAlgorithm b) a k
  have hg : '.' ∉ Base64Url.encode t.signature := fun hm => (Base64Url.ne_of_mem_encode hm).2 rfl
  have he : t.encoded.toList = t.message.toList ++ '.' :: Base64Url.encode t.signature := by
    simp only [t, signed, String.toList_ofList]
  have hv : (t.verify k).value = .ok () ↔ b = a := by
    rw [AccessToken.value_verify_eq_ok_iff (a := b) rfl, signedBy_signed_iff]
    exact ⟨fun hv => hv.2.symm, fun hv => ⟨hk, hv.symm⟩⟩
  exact ⟨t.encoded, t, c.sign_eq_ok _ a k hk, c.read_signed _ a k, rfl, rfl, rfl, ⟨_, hg, he⟩,
    c.signature_signed _ a k, hv⟩

theorem sign_read_epoch_ceiling :
    let k : Key    := ⟨[0x6b]⟩
    let c : Claims := {
      issuer       := "\"\\\n"
      audiences    := ["a", "ß"]
      issuedAt     := some .epoch
      availability := some <| .bounded .epoch
      principal    := "" }
    ¬k.Empty ∧ ∃ token t, c.sign (.ofAlgorithm .hs256) .hs512 k = .ok token ∧
      AccessToken.read token = .ok t ∧ t.claims = { c with availability := some .unbounded } ∧
      (t.verify k).value ≠ .ok () := by
  intro k c
  have ⟨token, t, hs, hr, _, _, hc, _, _, hv⟩ := c.sign_read .hs512 k (by decide) .hs256
  exact ⟨by decide, token, t, hs, hr, hc, mt hv.mp (by decide)⟩

end Claims
end TokenLifecycle
