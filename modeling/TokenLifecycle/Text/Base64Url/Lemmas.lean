import TokenLifecycle.Text.Base64Url

namespace TokenLifecycle.Base64Url

theorem encodedLength_add_three (n : Nat) : encodedLength (n + 3) = encodedLength n + 4 := by
  simp only [encodedLength, Nat.add_mod_right]
  omega

@[simp]
theorem length_split (bs : Bytes) : (split bs).length = encodedLength bs.length := by
  fun_induction split bs with
  | case1 => rfl
  | case2 => simp [encodedLength]
  | case3 => simp [encodedLength]
  | case4 a b c r hi => simp [hi, encodedLength_add_three]

theorem length_encode (bs : Bytes) : (encode bs).length = encodedLength bs.length := by
  simp [encode]

theorem ofNat_eq {n : Nat} {b : UInt8} (h : n = b.toNat) : UInt8.ofNat n = b := by
  subst h; simp

theorem join?_split (bs : Bytes) : join? (split bs) = some bs := by
  fun_induction split bs with
  | case1 => rfl
  | case2 a =>
    have := a.toNat_lt
    simp only [join?, Fin.val_ofNat]
    rw [if_pos (by omega), ofNat_eq (b := a) (by omega)]
  | case3 a b =>
    have := a.toNat_lt
    have := b.toNat_lt
    simp only [join?, Fin.val_ofNat]
    rw [if_pos (by omega), ofNat_eq (b := a) (by omega), ofNat_eq (b := b) (by omega)]
  | case4 a b c r hi =>
    have := a.toNat_lt
    have := b.toNat_lt
    have := c.toNat_lt
    simp only [join?, Fin.val_ofNat, hi, Option.map_some]
    rw [ofNat_eq (b := a) (by omega), ofNat_eq (b := b) (by omega), ofNat_eq (b := c) (by omega)]

theorem eq_split_of_join? {xs : List Sextet} {bs : Bytes} (h : join? xs = some bs) :
    xs = split bs := by
  fun_induction join? xs generalizing bs with
  | case1 => cases h; rfl
  | case2 => cases h
  | case3 x y hy =>
    cases h
    have := x.isLt
    have := y.isLt
    simp only [split, UInt8.toNat_ofNat', List.cons.injEq, Fin.ext_iff, Fin.val_ofNat, and_true]
    omega
  | case4 => cases h
  | case5 x y z hz =>
    cases h
    have := x.isLt
    have := y.isLt
    have := z.isLt
    simp only [split, UInt8.toNat_ofNat', List.cons.injEq, Fin.ext_iff, Fin.val_ofNat, and_true]
    omega
  | case6 => cases h
  | case7 x y z w r hi =>
    obtain ⟨bs', hr, rfl⟩ := Option.map_eq_some_iff.mp h
    have := x.isLt
    have := y.isLt
    have := z.isLt
    have := w.isLt
    simp only [split, UInt8.toNat_ofNat', List.cons.injEq, Fin.ext_iff, Fin.val_ofNat, hi hr,
      and_true]
    omega

theorem toChar_ne : ∀ x : Sextet, x.toChar ≠ '=' ∧ x.toChar ≠ '.' := by
  decide +kernel

theorem mapM_ofChar?_map_toChar (xs : List Sextet) :
    (xs.map Sextet.toChar).mapM Sextet.ofChar? = some xs := by
  induction xs with
  | nil => rfl
  | cons x xs hi => simp [hi, Sextet.ofChar?_toChar]

theorem map_toChar_of_mapM_ofChar? {cs : List Char} {xs : List Sextet}
    (h : cs.mapM Sextet.ofChar? = some xs) : xs.map Sextet.toChar = cs := by
  induction cs generalizing xs with
  | nil => simp_all
  | cons c cs hi =>
    simp only [List.mapM_cons, Option.pure_def, Option.bind_eq_bind, Option.bind_eq_some_iff,
      Option.some.injEq] at h
    obtain ⟨x, hx, xs', h, rfl⟩ := h
    simp [hi h, Sextet.toChar_of_ofChar?_eq_some hx]

theorem ne_of_mem_encode {bs : Bytes} {c : Char} (h : c ∈ encode bs) : c ≠ '=' ∧ c ≠ '.' := by
  simp only [encode, List.mem_map] at h
  obtain ⟨x, _, rfl⟩ := h
  exact toChar_ne x

-- A text is a written form of bytes exactly if it is their encoded form, followed by at most as
-- much padding as fills up the last group of characters.
theorem decode?_eq_some_iff {cs : List Char} {bs : Bytes} :
    decode? cs = some bs ↔
      ∃ n ≤ maxPadding (encodedLength bs.length), cs = encode bs ++ List.replicate n '=' where
  mp h := by
    simp only [decode?] at h
    split at h
    case isFalse => cases h
    case isTrue hp =>
      obtain ⟨xs, hx, hj⟩ := Option.bind_eq_some_iff.mp h
      have hb : cs.takeWhile (· ≠ '=') = encode bs := by
        rw [encode, ← eq_split_of_join? hj, map_toChar_of_mapM_ofChar? hx]
      refine ⟨(cs.dropWhile (· ≠ '=')).length, ?_, ?_⟩
      · rw [← length_encode, ← hb]; exact hp.2
      · rw [← hb, ← List.eq_replicate_of_mem (a := '=') (by simpa using hp.1),
          List.takeWhile_append_dropWhile]
  mpr := by
    rintro ⟨n, hn, rfl⟩
    have ht : (encode bs ++ List.replicate n '=').takeWhile (· ≠ '=') = encode bs := by
      rw [List.takeWhile_append_of_pos (by simpa using fun c hc => (ne_of_mem_encode hc).1)]
      cases n <;> simp [List.replicate_succ]
    have hd : (encode bs ++ List.replicate n '=').dropWhile (· ≠ '=') = List.replicate n '=' := by
      rw [List.dropWhile_append_of_pos (by simpa using fun c hc => (ne_of_mem_encode hc).1)]
      cases n <;> simp [List.replicate_succ]
    simp only [decode?, ht, hd, length_encode]
    rw [if_pos ⟨by simp, by simpa using hn⟩, encode, mapM_ofChar?_map_toChar, Option.bind_some,
      join?_split]

theorem decode?_encode (bs : Bytes) : decode? (encode bs) = some bs :=
  decode?_eq_some_iff.mpr ⟨0, Nat.zero_le _, (List.append_nil _).symm⟩

theorem not_mem_of_decode?_eq_some {cs : List Char} {bs : Bytes} (h : decode? cs = some bs) :
    '.' ∉ cs := by
  obtain ⟨n, _, rfl⟩ := decode?_eq_some_iff.mp h
  intro hm
  obtain hm | hm := List.mem_append.mp hm
  case inl => exact (ne_of_mem_encode hm).2 rfl
  case inr => exact nomatch List.eq_of_mem_replicate hm

end TokenLifecycle.Base64Url
