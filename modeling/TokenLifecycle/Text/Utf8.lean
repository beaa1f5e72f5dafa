import TokenLifecycle.Digest.Sha2

namespace TokenLifecycle.Utf8

def encode (cs : List Char) : Bytes :=
  cs.flatMap String.utf8EncodeChar

def decode? (bs : Bytes) : Option (List Char) :=
  (ByteArray.utf8Decode? bs.toByteArray).map Array.toList

theorem encode_append (cs₁ cs₂ : List Char) : encode (cs₁ ++ cs₂) = encode cs₁ ++ encode cs₂ :=
  List.flatMap_append

-- A character of ASCII is one byte, which is taken for that character again.
theorem encode_cons_of_lt {c : Char} (cs : List Char) (h : c.toNat < 0x80) :
    encode (c :: cs) = c.toUInt8 :: encode cs := by
  simp only [encode, List.flatMap_cons, String.utf8EncodeChar]
  rw [if_pos (by simp only [Char.toNat] at h; omega)]
  rfl

@[simp]
theorem toNat_ofUInt8 (b : UInt8) : (Char.ofUInt8 b).toNat = b.toNat :=
  UInt8.toNat_toUInt32 b

theorem ofUInt8_toUInt8 {c : Char} (h : c.toNat < 0x80) : Char.ofUInt8 c.toUInt8 = c := by
  apply Char.toNat_inj.mp
  rw [toNat_ofUInt8, Char.toUInt8, UInt32.toNat_toUInt8]
  exact Nat.mod_eq_of_lt <| Nat.lt_trans h (by decide)

-- No byte of any other character is taken for a character of ASCII.
theorem le_of_mem_encode {c : Char} (h : 0x80 ≤ c.toNat) : ∀ b ∈ encode [c], 0x80 ≤ b.toNat := by
  simp only [encode, List.flatMap_singleton, Char.toNat, String.utf8EncodeChar] at h ⊢
  repeat' split
  all_goals
    simp only [List.forall_mem_cons, List.not_mem_nil, false_imp_iff, implies_true, and_true,
      UInt8.toNat_ofNat']
    omega

theorem toByteArray_encode (cs : List Char) : (encode cs).toByteArray = cs.utf8Encode := by
  simp [encode, List.utf8Encode]

theorem decode?_encode (cs : List Char) : decode? (encode cs) = some cs := by
  simp [decode?, toByteArray_encode, List.utf8Decode?_utf8Encode]

theorem encode_ne_nil {cs : List Char} (h : cs ≠ []) : encode cs ≠ [] := by
  intro he
  have hd : decode? [] = some cs := he ▸ decode?_encode cs
  exact h <| Option.some.inj <| hd.symm.trans <| decode?_encode []

theorem encode_of_decode?_eq_some {bs : Bytes} {cs : List Char} (h : decode? bs = some cs) :
    encode cs = bs := by
  simp only [decode?, Option.map_eq_some_iff] at h
  obtain ⟨as, h, rfl⟩ := h
  have he := ByteArray.utf8Encode_get_utf8Decode? (b := bs.toByteArray) (h := by simp [h])
  simp only [h, Option.get_some] at he
  rw [← toByteArray_encode] at he
  have := congrArg (·.data.toList) he
  simpa [List.data_toByteArray] using this

end TokenLifecycle.Utf8
