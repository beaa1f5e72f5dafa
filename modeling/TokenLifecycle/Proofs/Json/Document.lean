import TokenLifecycle.Proofs.Json.Number
import TokenLifecycle.Proofs.Json.Text

namespace TokenLifecycle.Json

open Grammar (Blanks Padded Member Value)
open List (Forall₂)

-- The characters that can follow a value: blanks, and those that lead on to what comes next.
def Ends (c : Char) : Prop :=
  Scan.Blank c ∨ c = ',' ∨ c = ']' ∨ c = '\x7d'

theorem NumberScan.step_eq_none (q : NumberScan) (hc : Ends c) : q.step c = none := by
  obtain (rfl | rfl | rfl | rfl) | rfl | rfl | rfl := hc
  all_goals cases q <;> rfl

-- The scan has read the value. A number is not over before something else follows it.
inductive Behind (v : Json) (fs : List Frame) : Scan → Prop
  | complete : Behind v fs ⟨.complete v, fs⟩
  | number   : q.number? = some v → Behind v fs ⟨.number q, fs⟩

theorem Grammar.Blanks.blank {c : Char} {cs : List Char} (h : Blanks cs) (hc : c ∈ cs) :
    c.toNat < 0x80 ∧ Scan.Blank c := by
  have hc := h c hc
  simp only [List.mem_cons, List.not_mem_nil, or_false] at hc
  obtain rfl | rfl | rfl | rfl := hc <;> decide

-- Where blanks are passed over.
inductive Mode.Skips : Mode → Prop
  | value       : Skips .value
  | firstItem   : Skips .firstItem
  | firstMember : Skips .firstMember
  | nextMember  : Skips (.nextMember done)
  | colon       : Skips (.colon done name)
  | complete    : Skips (.complete v)

theorem Mode.Skips.step (h : Skips m) (hb : Scan.Blank <| .ofUInt8 b) (fs) :
    (Scan.mk m fs).step b = some ⟨m, fs⟩ := by
  cases h <;> exact if_pos hb

theorem Grammar.Blanks.run {cs : List Char} (h : Blanks cs) (hm : m.Skips) (fs) :
    (Scan.mk m fs).run (Utf8.encode cs) = some ⟨m, fs⟩ := by
  induction cs
  case nil          => rfl
  case cons c cs hi =>
    have ⟨ha, hb⟩ := h.blank (.head _)
    have hs := hm.step ((Utf8.ofUInt8_toUInt8 ha).symm ▸ hb) fs
    rw [Utf8.encode_cons_of_lt _ ha, Scan.run_cons, hs]
    exact hi fun c hm => h c <| .tail _ hm

namespace Behind

theorem step (h : Behind v fs s) (hb : Ends <| .ofUInt8 b) :
    s.step b = Scan.after v (.ofUInt8 b) fs := by
  cases h
  case complete  => rfl
  case number hn => simp only [Scan.step, NumberScan.step_eq_none _ hb, hn, Option.bind_some]

theorem finish (h : Behind v [] s) : s.finish = some v := by
  cases h
  case complete  => rfl
  case number hn => exact hn

theorem run_blanks {cs : List Char} (h : Behind v fs s) (hc : Blanks cs) :
    ∃ s', s.run (Utf8.encode cs) = some s' ∧ Behind v fs s' := by
  cases cs
  case nil       => exact ⟨s, rfl, h⟩
  case cons c cs =>
    have ⟨ha, hb⟩ := hc.blank (.head _)
    have hb : Scan.Blank (.ofUInt8 c.toUInt8) := (Utf8.ofUInt8_toUInt8 ha).symm ▸ hb
    have hs : s.step c.toUInt8 = some ⟨.complete v, fs⟩ := (h.step <| .inl hb).trans (if_pos hb)
    refine ⟨⟨.complete v, fs⟩, ?_, .complete⟩
    rw [Utf8.encode_cons_of_lt _ ha, Scan.run_cons, hs]
    exact Blanks.run (fun c hm => hc c <| .tail _ hm) .complete fs

end Behind

-- The bytes are read as the value, wherever a value is expected.
structure Reads (bs : Bytes) (v : Json) : Prop where
  run   : ∀ fs, ∃ s, (Scan.mk .value fs).run bs = some s ∧ Behind v fs s
  first : ∀ fs, (Scan.mk .firstItem fs).run bs = (Scan.mk .value (.items [] :: fs)).run bs

theorem Reads.read? (h : Reads bs v) : Json.read? bs = some v := by
  have ⟨s, hr, hb⟩ := h.run []
  simp only [Json.read?, Scan.start, hr, Option.bind_some, hb.finish]

theorem Reads.of_padded {w : List Char} {v : Json}
    (h : Padded (fun w v => Reads (Utf8.encode w) v) w v) : Reads (Utf8.encode w) v := by
  obtain ⟨hb, h, ha⟩ := h
  simp only [Utf8.encode_append, List.append_assoc]
  constructor
  case run =>
    intro fs
    have ⟨s, hr, hs⟩ := h.run fs
    have ⟨s', hr', hs'⟩ := hs.run_blanks ha
    refine ⟨s', ?_, hs'⟩
    rw [Scan.run_append, hb.run .value, Option.bind_some, Scan.run_append, hr, Option.bind_some,
      hr']
  case first =>
    intro fs
    rw [Scan.run_append, hb.run .firstItem, Option.bind_some, Scan.run_append, h.first,
      Scan.run_append, hb.run .value, Option.bind_some, Scan.run_append]

theorem Reads.of_text {w : List Char} {s : String} (h : Grammar.Text w s) :
    Reads (Utf8.encode w) (.text s) where
  run fs   := ⟨_, run_text h fs, .complete⟩
  first fs := by
    cases h
    rfl

-- Behind an opening bracket, anything but a blank or the closing one begins the first item.
theorem Scan.step_firstItem (ha : c.toNat < 0x80) (hb : ¬Blank c) (hc : c ≠ ']') (fs) :
    (Scan.mk .firstItem fs).step c.toUInt8 = (Scan.mk .value (.items [] :: fs)).step c.toUInt8 := by
  simp only [step, Utf8.ofUInt8_toUInt8 ha, if_neg hb, if_neg hc]

theorem Scan.run_firstItem (ha : c.toNat < 0x80) (hb : ¬Blank c) (hc : c ≠ ']') (cs fs) :
    (Scan.mk .firstItem fs).run (Utf8.encode (c :: cs)) =
      (Scan.mk .value (.items [] :: fs)).run (Utf8.encode (c :: cs)) := by
  rw [Utf8.encode_cons_of_lt _ ha, run_cons, run_cons, step_firstItem ha hb hc]

theorem run_firstItem_toDigits (n : Nat) (cs : List Char) (fs) :
    (Scan.mk .firstItem fs).run (Utf8.encode (Nat.toDigits 10 n ++ cs)) =
      (Scan.mk .value (.items [] :: fs)).run (Utf8.encode (Nat.toDigits 10 n ++ cs)) := by
  have hd : ∀ c ∈ Nat.toDigits 10 n, c.isDigit :=
    fun c => Nat.isDigit_of_mem_toDigits (by decide) (by decide)
  cases hw : Nat.toDigits 10 n
  case nil       => exact absurd hw Nat.toDigits_ne_nil
  case cons c cs =>
    replace hd := hd c (hw ▸ .head _)
    have hc : c ≠ ']' := fun hc => absurd (hc ▸ hd) (by decide)
    exact Scan.run_firstItem (NumberScan.lt_of_isDigit hd) (Scan.not_blank_of_isDigit hd) hc ..

theorem Reads.of_number {w : List Char} {n : Option Nat} (h : Grammar.Number w n) :
    Reads (Utf8.encode w) (.number n) where
  run fs   := have ⟨_, hr, hq⟩ := exists_run_number h fs; ⟨_, hr, .number hq⟩
  first fs := by
    cases h
    case natural n          => simpa using run_firstItem_toDigits n [] fs
    case other f e n hs _ _ _ =>
      simp only [List.mem_cons, List.not_mem_nil, or_false] at hs
      obtain rfl | rfl := hs
      case inl => simpa using run_firstItem_toDigits n (f ++ e) fs
      case inr => exact Scan.run_firstItem (by decide) (by decide) (by decide) ..

-- Elements with commas between them are read one after the other. Reading starts behind those that
-- are done already, and a comma leads to where it starts again.
theorem run_separated {Element : Bytes → α → Prop} (close : UInt8) (start finish : List α → Scan)
    (he : ∀ bs x done, Element bs x → ∃ s, (start done).run bs = some s ∧
      s.step 0x2c = some (start (x :: done)) ∧ s.step close = some (finish (x :: done)))
    (h : Element bs x) (hs : Forall₂ Element bss xs) (done : List α) :
    (start done).run (bs ++ (bss.flatMap (0x2c :: ·) ++ [close])) =
      some (finish (xs.reverse ++ x :: done)) := by
  induction hs generalizing bs x done
  case nil =>
    have ⟨s, hr, _, hc⟩ := he bs x done h
    rw [Scan.run_append, hr, Option.bind_some, List.flatMap_nil, List.nil_append, Scan.run_cons, hc]
    rfl
  case cons bs' x' bss xs h' _ hi =>
    have ⟨s, hr, hc, _⟩ := he bs x done h
    rw [Scan.run_append, hr, Option.bind_some, List.flatMap_cons, List.append_assoc,
      List.cons_append, Scan.run_cons, hc, Option.bind_some, hi h', List.reverse_cons,
      List.append_assoc]
    rfl

theorem encode_intercalate (w : List Char) (ws : List (List Char)) :
    Utf8.encode ([','].intercalate (w :: ws)) =
      Utf8.encode w ++ (ws.map Utf8.encode).flatMap (0x2c :: ·) := by
  induction ws generalizing w
  case nil => simp
  case cons w' ws hi =>
    rw [List.intercalate_cons_cons, Utf8.encode_append, Utf8.encode_append, hi, List.append_assoc]
    rfl

theorem run_items (h : Reads bs v) (hs : Forall₂ Reads bss vs) (fs) :
    (Scan.mk .firstItem fs).run (bs ++ (bss.flatMap (0x2c :: ·) ++ [0x5d])) =
      some ⟨.complete <| .array (v :: vs), fs⟩ := by
  have element bs v done (h : Reads bs v) :
      ∃ s, (Scan.mk .value (.items done :: fs)).run bs = some s ∧
        s.step 0x2c = some ⟨.value, .items (v :: done) :: fs⟩ ∧
        s.step 0x5d = some ⟨.complete <| .array (v :: done).reverse, fs⟩ := by
    have ⟨s, hr, hb⟩ := h.run (.items done :: fs)
    exact ⟨s, hr, hb.step <| .inr <| .inl rfl, hb.step <| .inr <| .inr <| .inl rfl⟩
  have hr := run_separated 0x5d (⟨.value, .items · :: fs⟩)
    (fun done => ⟨.complete <| .array done.reverse, fs⟩) element h hs []
  rw [Scan.run_append, h.first, ← Scan.run_append]
  simpa using hr

theorem reads_array (h : Forall₂ (fun w v => Reads (Utf8.encode w) v) ws vs) :
    Reads (Utf8.encode <| Written.array ws) (.array vs) := by
  refine ⟨fun fs => ?_, fun _ => rfl⟩
  cases h
  case nil => exact ⟨_, rfl, .complete⟩
  case cons w v ws vs h hs =>
    have he : Utf8.encode (Written.array (w :: ws)) =
        0x5b :: (Utf8.encode w ++ ((ws.map Utf8.encode).flatMap (0x2c :: ·) ++ [0x5d])) := by
      rw [← List.append_assoc, ← encode_intercalate]
      exact Utf8.encode_append ('[' :: _) _
    exact ⟨_, he ▸ run_items h (List.forall₂_map_left_iff.mpr hs) fs, .complete⟩

-- The bytes are read as a member, wherever one is expected.
structure ReadsMember (bs : Bytes) (m : String × Json) : Prop where
  run   : ∀ done fs, ∃ s, (Scan.mk (.nextMember done) fs).run bs = some s ∧
            Behind m.2 (.members done (some m.1) :: fs) s
  first : ∀ fs, (Scan.mk .firstMember fs).run bs = (Scan.mk (.nextMember []) fs).run bs

theorem run_padded_name {n : List Char} {name : String} (h : Padded Grammar.Text n name)
    (done fs) :
    (Scan.mk (.nextMember done) fs).run (Utf8.encode n) = some ⟨.colon done name, fs⟩ := by
  obtain ⟨hb, h, ha⟩ := h
  rw [Utf8.encode_append, Utf8.encode_append, List.append_assoc, Scan.run_append,
    hb.run .nextMember, Option.bind_some, Scan.run_append, run_name h, Option.bind_some,
    ha.run .colon]

theorem run_firstMember_padded {n : List Char} {name : String} (h : Padded Grammar.Text n name)
    (fs) :
    (Scan.mk .firstMember fs).run (Utf8.encode n) =
      (Scan.mk (.nextMember []) fs).run (Utf8.encode n) := by
  obtain ⟨hb, h, _⟩ := h
  rw [Utf8.encode_append, Utf8.encode_append, List.append_assoc, Scan.run_append,
    hb.run .firstMember, Scan.run_append, hb.run .nextMember]
  cases h
  rfl

theorem ReadsMember.of_member {w : List Char} {m : String × Json}
    (h : Member (fun w v => Reads (Utf8.encode w) v) w m) : ReadsMember (Utf8.encode w) m := by
  obtain ⟨name, v⟩ := m
  obtain ⟨hn, h⟩ := h
  have h := Reads.of_padded h
  rw [Utf8.encode_append]
  constructor
  case run =>
    intro done fs
    have ⟨s, hr, hb⟩ := h.run (.members done name :: fs)
    refine ⟨s, ?_, hb⟩
    rw [Scan.run_append, run_padded_name hn]
    exact hr
  case first =>
    intro fs
    rw [Scan.run_append, run_firstMember_padded hn, ← Scan.run_append]

theorem run_members (h : ReadsMember bs m) (hs : Forall₂ ReadsMember bss ms) (fs) :
    (Scan.mk .firstMember fs).run (bs ++ (bss.flatMap (0x2c :: ·) ++ [0x7d])) =
      some ⟨.complete <| record (m :: ms), fs⟩ := by
  let named (done : List (String × Json)) := done.map fun m => (some m.1, m.2)
  have element bs m done (h : ReadsMember bs m) :
      ∃ s, (Scan.mk (.nextMember <| named done) fs).run bs = some s ∧
        s.step 0x2c = some ⟨.nextMember <| named (m :: done), fs⟩ ∧
        s.step 0x7d = some ⟨.complete <| record (m :: done).reverse, fs⟩ := by
    have ⟨s, hr, hb⟩ := h.run (named done) fs
    have hc : s.step 0x7d = some ⟨.complete <| .object (named <| m :: done).reverse, fs⟩ :=
      hb.step <| .inr <| .inr <| .inr rfl
    rw [← List.map_reverse] at hc
    exact ⟨s, hr, hb.step <| .inr <| .inl rfl, hc⟩
  have hr := run_separated 0x7d (⟨.nextMember <| named ·, fs⟩)
    (fun done => ⟨.complete <| record done.reverse, fs⟩) element h hs []
  rw [Scan.run_append, h.first, ← Scan.run_append]
  simpa [named] using hr

theorem reads_members (h : Forall₂ (fun w m => ReadsMember (Utf8.encode w) m) ws ms) :
    Reads (Utf8.encode ('\x7b' :: [','].intercalate ws ++ ['\x7d'])) (record ms) := by
  refine ⟨fun fs => ?_, fun _ => rfl⟩
  cases h
  case nil => exact ⟨_, rfl, .complete⟩
  case cons w m ws ms h hs =>
    have he : Utf8.encode ('\x7b' :: [','].intercalate (w :: ws) ++ ['\x7d']) =
        0x7b :: (Utf8.encode w ++ ((ws.map Utf8.encode).flatMap (0x2c :: ·) ++ [0x7d])) := by
      rw [← List.append_assoc, ← encode_intercalate]
      exact Utf8.encode_append ('\x7b' :: _) _
    exact ⟨_, he ▸ run_members h (List.forall₂_map_left_iff.mpr hs) fs, .complete⟩

-- The member has its name and a value that is read from the written one.
def Documents (w : String × List Char) (m : String × Json) : Prop :=
  w.1 = m.1 ∧ Reads (Utf8.encode w.2) m.2

theorem Documents.readsMember (h : Documents w m) :
    ReadsMember (Utf8.encode <| Written.text w.1 ++ ':' :: w.2) m := by
  obtain ⟨name, v⟩ := m
  obtain ⟨rfl, h⟩ := h
  exact .of_member <| .colon (Grammar.padded_of <| Grammar.text_written w.1) (Grammar.padded_of h)

theorem reads_object (h : Forall₂ Documents ws ms) :
    Reads (Utf8.encode <| Written.object ws) (record ms) :=
  reads_members <| List.forall₂_map_left_iff.mpr <| h.imp fun _ _ => Documents.readsMember

theorem reads_text (s : String) : Reads (Utf8.encode <| Written.text s) (.text s) :=
  .of_text <| Grammar.text_written s

theorem reads_natural (n : Nat) : Reads (Utf8.encode <| Written.natural n) (.number n) :=
  .of_number <| .natural n

-- Every value is read from whatever it may be written as.
theorem Reads.of_value {w : List Char} {v : Json} (h : Value w v) : Reads (Utf8.encode w) v := by
  refine Value.rec_of_parts ?null ?true ?false ?number ?text ?emptyArray ?array ?emptyObject
    ?object h
  case null        => exact ⟨fun _ => ⟨_, rfl, .complete⟩, fun _ => rfl⟩
  case true        => exact ⟨fun _ => ⟨_, rfl, .complete⟩, fun _ => rfl⟩
  case false       => exact ⟨fun _ => ⟨_, rfl, .complete⟩, fun _ => rfl⟩
  case number      => exact .of_number
  case text        => exact .of_text
  case emptyArray  =>
    intro w h
    refine ⟨fun fs => ⟨⟨.complete <| .array [], fs⟩, ?_, .complete⟩, fun _ => rfl⟩
    rw [Utf8.encode_append ('[' :: _), Scan.run_append]
    exact congrArg (Option.bind · (Scan.run · _)) (h.run .firstItem fs)
  case array       => exact fun h => reads_array <| h.imp fun _ _ => Reads.of_padded
  case emptyObject =>
    intro w h
    refine ⟨fun fs => ⟨⟨.complete <| record [], fs⟩, ?_, .complete⟩, fun _ => rfl⟩
    rw [Utf8.encode_append ('\x7b' :: _), Scan.run_append]
    exact congrArg (Option.bind · (Scan.run · _)) (h.run .firstMember fs)
  case object      => exact fun h => reads_members <| h.imp fun _ _ => ReadsMember.of_member

theorem Grammar.Document.read? {text : List Char} {v : Json} (h : Document text v) :
    Json.read? (Utf8.encode text) = some v := by
  obtain ⟨hb, h, ha⟩ := h
  exact (Reads.of_padded <| .blanks hb (Reads.of_value h) ha).read?

end TokenLifecycle.Json
