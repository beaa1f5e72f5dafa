import TokenLifecycle.Describe
import TokenLifecycle.Disclosure
import TokenLifecycle.Proofs.Token.Issuance

namespace TokenLifecycle

variable {w : Nat} {cs cs' p g : List Char} {s s' : String}

theorem reveal_of_lt (hw : 1 < w) (h : cs.length < w) : reveal (some w) cs = cs := by
  simp only [reveal, if_neg (Nat.not_le.mpr hw), if_pos h]

theorem reveal_of_le (hw : 1 < w) (h : w ≤ cs.length) :
    reveal (some w) cs = cs.take (w - 1) ++ ['…'] := by
  simp only [reveal, if_neg (Nat.not_le.mpr hw), if_neg (Nat.not_lt.mpr h)]

theorem length_reveal (hw : 1 < w) : (reveal (some w) cs).length = min cs.length w := by
  by_cases h : cs.length < w
  case pos => rw [reveal_of_lt hw h]; omega
  case neg =>
    rw [reveal_of_le hw (Nat.not_lt.mp h), List.length_append, List.length_take,
      List.length_singleton]
    omega

-- Of two texts that look alike, either all is seen or of both just the part that they share.
theorem reveal_eq_reveal_iff (hw : 1 < w) :
    reveal (some w) cs = reveal (some w) cs' ↔
      cs = cs' ∨ w ≤ cs.length ∧ w ≤ cs'.length ∧ cs.take (w - 1) = cs'.take (w - 1) := by
  -- A text of which something is left out is as long as the width, and a shorter one is not.
  have hl (he : reveal (some w) cs = reveal (some w) cs') : min cs.length w = min cs'.length w := by
    rw [← length_reveal hw, ← length_reveal hw, he]
  by_cases h : w ≤ cs.length
  case pos =>
    constructor
    case mp =>
      intro he
      have h' : w ≤ cs'.length := by have := hl he; omega
      rw [reveal_of_le hw h, reveal_of_le hw h', List.append_left_inj] at he
      exact .inr ⟨h, h', he⟩
    case mpr =>
      rintro (rfl | ⟨_, h', ht⟩)
      case inl => rfl
      case inr => rw [reveal_of_le hw h, reveal_of_le hw h', ht]
  case neg =>
    constructor
    case mp =>
      intro he
      have h' : cs'.length < w := by have := hl he; omega
      rw [reveal_of_lt hw (Nat.not_le.mp h), reveal_of_lt hw h'] at he
      exact .inl he
    case mpr => exact fun ht => congrArg _ <| ht.resolve_right fun ht => h ht.1

-- The form in quotes that may disclose something, for which no width is given.
def Form.inQuotes : Form where
  quoted    := true
  alternate := true

namespace Confidential

theorem render_of_not_alternate {f : Form} (h : f.alternate = false) (k : Confidential)
    (s : String) : k.render f s = k.placeholder :=
  if_neg <| Bool.eq_false_iff.mp h

theorem render_inQuotes_eq_iff (k : Confidential) :
    k.render .inQuotes s = k.render .inQuotes s' ↔
      (k.split s.toList).1 ++ reveal (some k.quotedWidth) (k.split s.toList).2 =
        (k.split s'.toList).1 ++ reveal (some k.quotedWidth) (k.split s'.toList).2 := by
  simp only [render, Form.inQuotes, if_true, disclose, Option.none_or, String.ofList_inj,
    List.cons_append, List.cons.injEq, true_and, List.append_left_inj]

-- The texts are the same up to the last dot and with it, or there is no dot in either of them.
inductive SameUpToLastDot : List Char → List Char → Prop
  | dotted (p : List Char) {g g' : List Char} : ('.' ∉ g) → ('.' ∉ g') →
    SameUpToLastDot (p ++ '.' :: g) (p ++ '.' :: g')
  | dotless {g g' : List Char} : ('.' ∉ g) → ('.' ∉ g') → SameUpToLastDot g g'

theorem takeWhile_ne_dot (h : '.' ∉ g) (r : List Char) :
    (g.reverse ++ r).takeWhile (· ≠ '.') = g.reverse ++ r.takeWhile (· ≠ '.') :=
  List.takeWhile_append_of_pos fun c hc => by
    have : c ≠ '.' := fun he => h <| he ▸ List.mem_reverse.mp hc
    simpa using this

theorem lastSegment_of_not_mem (h : '.' ∉ g) : lastSegment g = g := by
  rw [lastSegment, ← List.append_nil g.reverse, takeWhile_ne_dot h, List.takeWhile_nil,
    List.append_nil, List.reverse_reverse]

theorem lastSegment_append_dot (p : List Char) (h : '.' ∉ g) :
    lastSegment (p ++ '.' :: g) = g := by
  rw [lastSegment, List.reverse_append, List.reverse_cons, List.append_assoc, takeWhile_ne_dot h,
    List.singleton_append, List.takeWhile_cons_of_neg (by simp), List.append_nil,
    List.reverse_reverse]

theorem split_token_of_not_mem (h : '.' ∉ g) : token.split g = ([], g) := by
  simp [split, lastSegment_of_not_mem h]

theorem split_token_append_dot (p : List Char) (h : '.' ∉ g) :
    token.split (p ++ '.' :: g) = (p ++ ['.'], g) := by
  have hp : p ++ '.' :: g = (p ++ ['.']) ++ g := by rw [List.append_assoc, List.singleton_append]
  rw [split, lastSegment_append_dot p h, hp, List.length_append, Nat.add_sub_cancel,
    List.take_left]

theorem dot_mem_split_token_fst : '.' ∈ (token.split cs).1 ↔ '.' ∈ cs := by
  by_cases h : '.' ∈ cs
  case pos =>
    have ⟨p, g, hg, hc⟩ := Segments.exists_last_dot h
    rw [hc, split_token_append_dot p hg]
    simp
  case neg => simp [split_token_of_not_mem h, h]

theorem split_token_fst_eq_iff :
    (token.split cs).1 = (token.split cs').1 ↔ SameUpToLastDot cs cs' := by
  constructor
  case mp =>
    intro he
    have hd : '.' ∈ cs ↔ '.' ∈ cs' := by
      rw [← dot_mem_split_token_fst, he, dot_mem_split_token_fst]
    by_cases h : '.' ∈ cs
    case pos =>
      have ⟨p, _, hg, hc⟩   := Segments.exists_last_dot h
      have ⟨p', _, hg', hc'⟩ := Segments.exists_last_dot <| hd.mp h
      rw [hc, hc', split_token_append_dot p hg, split_token_append_dot p' hg'] at he
      cases List.append_left_injective _ he
      exact hc ▸ hc' ▸ .dotted p hg hg'
    case neg => exact .dotless h <| mt hd.mpr h
  case mpr =>
    intro h
    cases h
    case dotted p _ _ h h' => rw [split_token_append_dot p h, split_token_append_dot p h']
    case dotless h h'      => rw [split_token_of_not_mem h, split_token_of_not_mem h']

theorem render_secret_inQuotes (s s' : String) :
    secret.render .inQuotes s = secret.render .inQuotes s' :=
  (render_inQuotes_eq_iff secret).mpr rfl

theorem render_target_inQuotes_eq_iff :
    target.render .inQuotes s = target.render .inQuotes s' ↔
      s = s' ∨ 12 ≤ s.length ∧ 12 ≤ s'.length ∧ s.toList.take 11 = s'.toList.take 11 := by
  rw [render_inQuotes_eq_iff, ← String.toList_inj, ← String.length_toList, ← String.length_toList]
  exact reveal_eq_reveal_iff (w := 12) (by decide)

-- Of the last segment no more is seen than that it is there.
theorem render_token_inQuotes_eq_iff :
    token.render .inQuotes s = token.render .inQuotes s' ↔
      SameUpToLastDot s.toList s'.toList := by
  rw [render_inQuotes_eq_iff, ← split_token_fst_eq_iff]
  exact List.append_left_inj ['…']

-- Two runs that differ in nothing but what is protected look the same: in the form that discloses
-- nothing two texts always do, and in quotes if they agree in what may be seen of them. A key is
-- never seen, and of a token that was read just what it says.
theorem renderings_independent :
    (∀ (k : Confidential) (quoted : Bool) (width : Option Nat) (s s' : String),
      k.render ⟨quoted, false, width⟩ s = k.render ⟨quoted, false, width⟩ s') ∧
    (∀ s s', secret.render .inQuotes s = secret.render .inQuotes s') ∧
    (∀ s s', target.render .inQuotes s = target.render .inQuotes s' ↔
      s = s' ∨ 12 ≤ s.length ∧ 12 ≤ s'.length ∧ s.toList.take 11 = s'.toList.take 11) ∧
    (∀ s s', token.render .inQuotes s = token.render .inQuotes s' ↔
      SameUpToLastDot s.toList s'.toList) ∧
    (∀ (c : Settings) (k : Key), Describe.settings { c with key := k } = Describe.settings c) ∧
    ∀ t t' : AccessToken, t.header = t'.header → t.claims = t'.claims →
      Describe.token t = Describe.token t' := by
  refine ⟨fun k _ _ _ _ => ?_, render_secret_inQuotes, fun _ _ => render_target_inQuotes_eq_iff,
    fun _ _ => render_token_inQuotes_eq_iff, fun _ _ => ?_, fun _ _ hh hc => ?_⟩
  · rw [k.render_of_not_alternate rfl, k.render_of_not_alternate rfl]
  · rfl
  · rw [Describe.token, Describe.token, hh, hc]

theorem renderings_independent_of_forged_signature :
    let s  := "eyJhbGciOiJIUzI1NiJ9.eyJpYXQiOjB9.c2lnbmF0dXJl"
    let s' := "eyJhbGciOiJIUzI1NiJ9.eyJpYXQiOjB9.Zm9yZ2Vk"
    let c  := Settings.claims { key := ⟨[0x6b]⟩ } "alice" { seconds := 1000 }
    token.render .inQuotes s = token.render .inQuotes s' ∧
    target.render .inQuotes "postgres://alice:pw@db" = target.render .inQuotes "postgres://db/x" ∧
    target.render .inQuotes "postgres://a" ≠ target.render .inQuotes "postgres://" ∧
    Describe.token (c.sealed ⟨[0x6b]⟩) = Describe.token (c.sealed ⟨[]⟩) := by
  intro s s' c
  have ⟨_, _, ht, hj, _, hd⟩ := renderings_independent
  refine ⟨(hj s s').mpr ?_, (ht _ _).mpr ?_, mt (ht _ _).mp ?_, hd _ _ rfl rfl⟩
  · let p := "eyJhbGciOiJIUzI1NiJ9.eyJpYXQiOjB9".toList
    have hs : s.toList = p ++ '.' :: "c2lnbmF0dXJl".toList := by decide
    have hs' : s'.toList = p ++ '.' :: "Zm9yZ2Vk".toList := by decide
    rw [hs, hs']
    exact .dotted p (by decide) (by decide)
  · decide
  · decide

end Confidential
end TokenLifecycle
