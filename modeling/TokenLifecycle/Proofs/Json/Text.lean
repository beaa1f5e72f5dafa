import TokenLifecycle.Proofs.Json.Grammar

namespace TokenLifecycle.Json

open Grammar (HexDigit Escape Character)
open List (Forall₂)

-- A byte that stands for itself within a text.
structure Plain (b : UInt8) : Prop where
  not_quote     : Char.ofUInt8 b ≠ '"'
  not_backslash : Char.ofUInt8 b ≠ '\\'
  not_control   : ¬b < 0x20

theorem ofUInt8_ne_of_le {b : UInt8} {c : Char} (h : 0x80 ≤ b.toNat) (hc : c.toNat < 0x80) :
    Char.ofUInt8 b ≠ c := by
  intro hb
  rw [← hb, Utf8.toNat_ofUInt8] at hc
  exact Nat.not_lt_of_le h hc

theorem Plain.of_le {b : UInt8} (h : 0x80 ≤ b.toNat) : Plain b where
  not_quote     := ofUInt8_ne_of_le h (by decide)
  not_backslash := ofUInt8_ne_of_le h (by decide)
  not_control hl :=
    have hl : b.toNat < 0x20 := UInt8.lt_iff_toNat_lt.mp hl
    Nat.not_lt_of_le h <| Nat.lt_trans hl (by decide)

-- A character that needs no escape is written as bytes that all stand for themselves.
theorem plain_of_mem_encode {c : Char} (hq : c ≠ '"') (hb : c ≠ '\\') (hc : ¬c.toNat < 0x20) :
    ∀ b ∈ Utf8.encode [c], Plain b := by
  intro b hm
  by_cases h : c.toNat < 0x80
  case neg => exact .of_le <| Utf8.le_of_mem_encode (Nat.le_of_not_lt h) b hm
  case pos =>
    rw [Utf8.encode_cons_of_lt [] h] at hm
    have he : b = c.toUInt8 := List.mem_singleton.mp hm
    have ho : Char.ofUInt8 b = c := he ▸ Utf8.ofUInt8_toUInt8 h
    refine ⟨ho ▸ hq, ho ▸ hb, fun hl => hc ?_⟩
    rw [← ho, Utf8.toNat_ofUInt8]
    exact UInt8.lt_iff_toNat_lt.mp hl

-- What is written within a text is read as pieces that stand for the characters, wherever in the
-- text it is.
structure Spells (written cs : List Char) (ps : List Piece) : Prop where
  run   : ∀ key done fs, (Scan.mk (.text key done .plain) fs).run (Utf8.encode written) =
            some ⟨.text key (ps.reverse ++ done) .plain, fs⟩
  bytes : ∀ r, Piece.bytes? (ps ++ r) = (Piece.bytes? r).map (Utf8.encode cs ++ ·)

namespace Spells

theorem nil : Spells [] [] [] where
  run _ _ _ := rfl
  bytes r   := by simp [Utf8.encode]

theorem append (h₁ : Spells w₁ cs₁ ps₁) (h₂ : Spells w₂ cs₂ ps₂) :
    Spells (w₁ ++ w₂) (cs₁ ++ cs₂) (ps₁ ++ ps₂) where
  run key done fs := by
    rw [Utf8.encode_append, Scan.run_append, h₁.run, Option.bind_some, h₂.run, List.reverse_append,
      List.append_assoc]
  bytes r := by
    rw [List.append_assoc, h₁.bytes, h₂.bytes, Option.map_map, Utf8.encode_append]
    congr 1
    funext bs
    simp

-- A byte that stands for itself is taken as it is.
theorem run_plain {bs : Bytes} (h : ∀ b ∈ bs, Plain b) (key done fs) :
    (Scan.mk (.text key done .plain) fs).run bs =
      some ⟨.text key ((bs.map .byte).reverse ++ done) .plain, fs⟩ := by
  induction bs generalizing done
  case nil => rfl
  case cons b bs hi =>
    have ⟨hq, hb, hc⟩ := h b <| .head _
    have hs : (Scan.mk (.text key done .plain) fs).step b =
        some ⟨.text key (.byte b :: done) .plain, fs⟩ := by
      simp only [Scan.step, Scan.textStep, if_neg hq, if_neg hb, if_neg hc]
    rw [Scan.run_cons, hs, Option.bind_some, hi fun b hb => h b <| .tail _ hb]
    simp

theorem bytes?_map_byte (bs : Bytes) (r : List Piece) :
    Piece.bytes? (bs.map .byte ++ r) = (Piece.bytes? r).map (bs ++ ·) := by
  induction bs
  case nil => simp
  case cons b bs hi =>
    rw [List.map_cons, List.cons_append, Piece.bytes?, hi, Option.map_map]
    rfl

theorem of_plain (h : ∀ b ∈ Utf8.encode cs, Plain b) :
    Spells cs cs ((Utf8.encode cs).map .byte) where
  run   := run_plain h
  bytes := bytes?_map_byte _

theorem hexDigit?_digitChar : ∀ d < 16,
    (d.digitChar.toNat < 0x80 ∧ hexDigit? d.digitChar = some d) ∧
      d.digitChar.toUpper.toNat < 0x80 ∧ hexDigit? d.digitChar.toUpper = some d := by
  decide

theorem hexDigit?_of_hexDigit {c : Char} {d : Nat} (h : HexDigit c d) :
    c.toNat < 0x80 ∧ hexDigit? c = some d := by
  cases h
  case lower h => exact (hexDigit?_digitChar d h).1
  case upper h => exact (hexDigit?_digitChar d h).2

theorem step_hexDigit {c : Char} {d : Nat} (h : HexDigit c d) (key done left value fs) :
    (Scan.mk (.text key done (.hex left value)) fs).step c.toUInt8 =
      match left with
      | 0        => some ⟨.text key (.unit (value * 16 + d) :: done) .plain, fs⟩
      | left + 1 => some ⟨.text key done (.hex left (value * 16 + d)), fs⟩ := by
  have ⟨ha, hd⟩ := hexDigit?_of_hexDigit h
  simp only [Scan.step, Scan.textStep, Utf8.ofUInt8_toUInt8 ha, hd, Option.map_some]
  cases left <;> rfl

-- A numbered escape is read as its number, whatever that number is.
theorem run_escape {w : List Char} {n : Nat} (h : Escape w n) (key done fs) :
    (Scan.mk (.text key done .plain) fs).run (Utf8.encode w) =
      some ⟨.text key (.unit n :: done) .plain, fs⟩ := by
  cases h
  case digits c₁ c₂ c₃ c₄ d₁ d₂ d₃ d₄ h₁ h₂ h₃ h₄ =>
    have hp : (Scan.mk (.text key done .plain) fs).run (Utf8.encode ['\\', 'u']) =
        some ⟨.text key done (.hex 3 0), fs⟩ := rfl
    have he : Utf8.encode [c₁, c₂, c₃, c₄] =
        [c₁.toUInt8, c₂.toUInt8, c₃.toUInt8, c₄.toUInt8] := by
      rw [Utf8.encode_cons_of_lt _ (hexDigit?_of_hexDigit h₁).1,
        Utf8.encode_cons_of_lt _ (hexDigit?_of_hexDigit h₂).1,
        Utf8.encode_cons_of_lt _ (hexDigit?_of_hexDigit h₃).1,
        Utf8.encode_cons_of_lt _ (hexDigit?_of_hexDigit h₄).1]
      rfl
    change (Scan.mk _ fs).run (Utf8.encode <| ['\\', 'u'] ++ [c₁, c₂, c₃, c₄]) = _
    rw [Utf8.encode_append, Scan.run_append, hp, Option.bind_some, he, Scan.run_cons,
      step_hexDigit h₁, Option.bind_some, Scan.run_cons, step_hexDigit h₂, Option.bind_some,
      Scan.run_cons, step_hexDigit h₃, Option.bind_some, Scan.run_cons, step_hexDigit h₄,
      Nat.zero_mul, Nat.zero_add]
    rfl

-- The number of a character is no half of a pair.
theorem not_isLeading_toNat (c : Char) : ¬Piece.IsLeading c.toNat := by
  have hv : c.toNat < 0xd800 ∨ 0xdfff < c.toNat ∧ c.toNat < 0x110000 := c.valid
  unfold Piece.IsLeading
  omega

theorem not_isTrailing_toNat (c : Char) : ¬Piece.IsTrailing c.toNat := by
  have hv : c.toNat < 0xd800 ∨ 0xdfff < c.toNat ∧ c.toNat < 0x110000 := c.valid
  unfold Piece.IsTrailing
  omega

theorem bytes?_unit (c : Char) (r : List Piece) :
    Piece.bytes? (.unit c.toNat :: r) = (Piece.bytes? r).map (Utf8.encode [c] ++ ·) := by
  have hl := not_isLeading_toNat c
  have ht := not_isTrailing_toNat c
  match r with
  | []           => simp [Piece.bytes?, hl, ht]
  | .byte _ :: _ => simp [Piece.bytes?, hl, ht]
  | .unit _ :: _ => simp [Piece.bytes?, hl, ht]

theorem of_escape {w : List Char} {c : Char} (h : Escape w c.toNat) :
    Spells w [c] [.unit c.toNat] where
  run   := run_escape h
  bytes := bytes?_unit c

theorem bytes?_pair {c : Char} (hc : 0x10000 ≤ c.toNat) (r : List Piece) :
    Piece.bytes? (.unit (0xd800 + (c.toNat - 0x10000) / 0x400) ::
        .unit (0xdc00 + (c.toNat - 0x10000) % 0x400) :: r) =
      (Piece.bytes? r).map (Utf8.encode [c] ++ ·) := by
  have hv : c.toNat < 0xd800 ∨ 0xdfff < c.toNat ∧ c.toNat < 0x110000 := c.valid
  have hl : Piece.IsLeading (0xd800 + (c.toNat - 0x10000) / 0x400) := by
    unfold Piece.IsLeading
    omega
  have ht : Piece.IsTrailing (0xdc00 + (c.toNat - 0x10000) % 0x400) := by
    unfold Piece.IsTrailing
    omega
  have hn : 0x10000 + (0xd800 + (c.toNat - 0x10000) / 0x400 - 0xd800) * 0x400 +
      (0xdc00 + (c.toNat - 0x10000) % 0x400 - 0xdc00) = c.toNat := by
    omega
  rw [Piece.bytes?, if_pos hl, if_pos ht, hn, Char.ofNat_toNat]

theorem of_pair {w₁ w₂ : List Char} {c : Char} (hc : 0x10000 ≤ c.toNat)
    (h₁ : Escape w₁ (0xd800 + (c.toNat - 0x10000) / 0x400))
    (h₂ : Escape w₂ (0xdc00 + (c.toNat - 0x10000) % 0x400)) :
    Spells (w₁ ++ w₂) [c] [.unit (0xd800 + (c.toNat - 0x10000) / 0x400),
      .unit (0xdc00 + (c.toNat - 0x10000) % 0x400)] where
  run key done fs := by
    rw [Utf8.encode_append, Scan.run_append, run_escape h₁, Option.bind_some, run_escape h₂]
    rfl
  bytes := bytes?_pair hc

-- However a character is written, it is read back.
theorem of_character {w : List Char} {c : Char} (h : Character w c) : ∃ ps, Spells w [c] ps := by
  cases h
  case plain hq hb hc =>
    exact ⟨_, of_plain <| plain_of_mem_encode hq hb (Nat.not_lt_of_le hc)⟩
  case letter hm =>
    simp only [Grammar.letters, List.mem_cons, Prod.mk.injEq, List.not_mem_nil, or_false] at hm
    obtain ⟨rfl, rfl⟩ | ⟨rfl, rfl⟩ | ⟨rfl, rfl⟩ | ⟨rfl, rfl⟩ | ⟨rfl, rfl⟩ | ⟨rfl, rfl⟩ |
      ⟨rfl, rfl⟩ | ⟨rfl, rfl⟩ := hm
    all_goals exact ⟨[.byte _], fun _ _ _ => rfl, fun _ => rfl⟩
  case escape h         => exact ⟨_, of_escape h⟩
  case pair hc h₁ h₂    => exact ⟨_, of_pair hc h₁ h₂⟩

theorem of_characters {ws : List (List Char)} {cs : List Char} (h : Forall₂ Character ws cs) :
    ∃ ps, Spells ws.flatten cs ps := by
  induction h
  case nil => exact ⟨[], nil⟩
  case cons hc _ hi =>
    have ⟨ps₁, h₁⟩ := of_character hc
    have ⟨ps₂, h₂⟩ := hi
    exact ⟨ps₁ ++ ps₂, h₁.append h₂⟩

theorem content? (h : Spells w cs ps) : Piece.content? ps = some (String.ofList cs) := by
  have hb := h.bytes []
  simp only [List.append_nil, Piece.bytes?, Option.map_some] at hb
  simp [Piece.content?, hb, Utf8.decode?_encode]

end Spells

theorem run_quote (key done fs) :
    (Scan.mk (.text key done .plain) fs).run (Utf8.encode ['"']) =
      let content := Piece.content? done.reverse
      some ⟨key.elim (.complete <| .text content) (.colon · content), fs⟩ := by
  cases key <;> rfl

-- Behind its opening quote, a text is read up to its closing quote, as a member's name or a value.
theorem run_characters {ws : List (List Char)} {s : String} (h : Forall₂ Character ws s.toList)
    (key fs) :
    (Scan.mk (.text key [] .plain) fs).run (Utf8.encode <| ws.flatten ++ ['"']) =
      some ⟨key.elim (.complete <| .text s) (.colon · s), fs⟩ := by
  have ⟨ps, h⟩ := Spells.of_characters h
  have hc : Piece.content? ps = some s := by simpa using h.content?
  rw [Utf8.encode_append, Scan.run_append, h.run, List.append_nil, Option.bind_some, run_quote]
  simp only [List.reverse_reverse, hc]

variable {w : List Char} {s : String}

theorem run_text (h : Grammar.Text w s) (fs) :
    (Scan.mk .value fs).run (Utf8.encode w) = some ⟨.complete <| .text s, fs⟩ := by
  cases h
  case quoted h => exact run_characters h none fs

theorem run_name (h : Grammar.Text w s) (done fs) :
    (Scan.mk (.nextMember done) fs).run (Utf8.encode w) = some ⟨.colon done s, fs⟩ := by
  cases h
  case quoted h => exact run_characters h (some done) fs

end TokenLifecycle.Json
