import TokenLifecycle.Proofs.Token.Reading
import TokenLifecycle.Proofs.Token.Signing

namespace TokenLifecycle

variable {t t' : AccessToken} {k : Key} {a : Algorithm} {v : Validator} {now : Instant}

namespace Algorithm

-- How much padding a written signature may have.
def maxPadding : Algorithm → Nat
  | hs256 => 1
  | hs384 => 0
  | hs512 => 2

theorem maxPadding_encodedLength_size (a : Algorithm) :
    Base64Url.maxPadding (Base64Url.encodedLength a.size) = a.maxPadding := by
  cases a <;> rfl

end Algorithm

namespace Key

-- The ways to write down the signature of a message, which differ in their padding.
def Spells (k : Key) (a : Algorithm) (message : Bytes) (g : List Char) : Prop :=
  ∃ n ≤ a.maxPadding, g = Base64Url.encode (k.mac a message) ++ List.replicate n '='

theorem spells_iff {message : Bytes} {g : List Char} :
    k.Spells a message g ↔ Base64Url.decode? g = some (k.mac a message) := by
  rw [Spells, Base64Url.decode?_eq_some_iff, length_mac, Algorithm.maxPadding_encodedLength_size]

theorem spells_append_iff (k : Key) (a : Algorithm) (message : Bytes) (n : Nat) :
    k.Spells a message (Base64Url.encode (k.mac a message) ++ List.replicate n '=') ↔
      n ≤ a.maxPadding where
  mp := by
    intro ⟨m, hm, he⟩
    have hn := congrArg List.length <| List.append_cancel_left he
    simp only [List.length_replicate] at hn
    exact hn ▸ hm
  mpr hn := ⟨n, hn, rfl⟩

end Key

namespace AccessToken

theorem value_verify_eq_ok_iff_exists :
    (t.verify k).value = .ok () ↔ ∃ a, t.header.algorithm = some a ∧ t.SignedBy k a := by
  cases ha : t.header.algorithm
  case none   => simp [verify, ha]
  case some a => simp [value_verify_eq_ok_iff ha]

-- The token with another signature, and the text that goes with it.
def resigned (t : AccessToken) (encoded : String) (signature : Bytes) : AccessToken :=
  { t with encoded, signature }

-- All that the last segment says is the signature.
theorem read_resigned_iff {h p g g' : String} (hr : read (joined h p g) = .ok t) :
    read (joined h p g') = .ok t' ↔
      ∃ signature, Base64Url.decode? g'.toList = some signature ∧
        t' = t.resigned (joined h p g') signature := by
  have ⟨hd, hh, hp, _, _, hm⟩ := read_joined_eq_ok_iff.mp hr
  rw [read_joined_eq_ok_iff]
  constructor
  case mp =>
    intro ⟨_, hh', hp', hg', he', hm'⟩
    refine ⟨t'.signature, hg', AccessToken.ext he' (hm'.trans hm.symm) ?_ ?_ rfl⟩
    · exact Except.ok.inj <| hh'.symm.trans hh
    · exact Except.ok.inj <| hp'.symm.trans hp
  case mpr =>
    intro ⟨signature, hg', ht⟩
    subst ht
    exact ⟨hd, hh, hp, hg', rfl, hm⟩

-- A key that accepts the signature of a token accepts no other in its place.
theorem value_verify_resigned_iff {encoded : String} {signature : Bytes}
    (hv : (t.verify k).value = .ok ()) :
    ((t.resigned encoded signature).verify k).value = .ok () ↔ signature = t.signature := by
  have ⟨a, ha, hk⟩ := value_verify_eq_ok_iff_exists.mp hv
  have ha : (t.resigned encoded signature).header.algorithm = some a := ha
  rw [value_verify_eq_ok_iff ha, hk.eq]
  exact ⟨fun hk' => hk'.eq, fun hs => ⟨hk.usable, hs⟩⟩

-- A validator does not look at how a token is written.
theorem check_resigned (t : AccessToken) (encoded : String) (v : Validator) (now : Instant) :
    v.check (t.resigned encoded t.signature) now = v.check t now :=
  rfl

-- If a key accepts the signature of a token, then what may stand in the place of that signature are
-- the spellings of the one that the key makes, and they all pass for the same token.
theorem verify_joined_iff {h p g : String} (hr : read (joined h p g) = .ok t)
    (hv : (t.verify k).value = .ok ()) (g' : String) :
    ((∃ t', read (joined h p g') = .ok t' ∧ (t'.verify k).value = .ok ()) ↔
      ∃ a, t.header.algorithm = some a ∧
        k.Spells a (Utf8.encode (h ++ "." ++ p).toList) g'.toList) ∧
    ∀ t', read (joined h p g') = .ok t' → (t'.verify k).value = .ok () →
      ∀ v now, Validator.check v t' now = v.check t now := by
  have hm : t.message = h ++ "." ++ p := (read_joined_eq_ok_iff.mp hr).2.2.2.2.2
  have ⟨a, ha, hk⟩ := value_verify_eq_ok_iff_exists.mp hv
  have hs {e s} : ((t.resigned e s).verify k).value = .ok () ↔ s = t.signature :=
    value_verify_resigned_iff hv
  constructor
  · constructor
    case mp =>
      intro ⟨t', hr', hv'⟩
      obtain ⟨s, hg, rfl⟩ := (read_resigned_iff hr).mp hr'
      refine ⟨a, ha, Key.spells_iff.mpr ?_⟩
      rw [hg, hs.mp hv', hk.eq, hm]
    case mpr =>
      intro ⟨a', ha', hg⟩
      obtain rfl : a = a' := Option.some.inj <| ha.symm.trans ha'
      rw [← hm, Key.spells_iff, ← hk.eq] at hg
      exact ⟨_, (read_resigned_iff hr).mpr ⟨_, hg, rfl⟩, hs.mpr rfl⟩
  · intro t' hr' hv' v now
    obtain ⟨s, _, rfl⟩ := (read_resigned_iff hr).mp hr'
    rw [hs.mp hv', check_resigned]

theorem verify_joined_padded :
    let k : Key      := ⟨[0x6b]⟩
    let c : Claims   := { principal := "alice" }
    let t            := c.signed (.ofAlgorithm .hs512) .hs512 k
    let h : String   := .ofList <| Base64Url.encode <| Utf8.encode t.header.written
    let p : String   := .ofList <| Base64Url.encode <| Utf8.encode c.written
    let g : String   := .ofList <| Base64Url.encode t.signature
    read (joined h p g) = .ok t ∧ (t.verify k).value = .ok () ∧
      (∃ t', read (joined h p (g ++ "==")) = .ok t' ∧ (t'.verify k).value = .ok () ∧
        ∀ v now, Validator.check v t' now = v.check t now) ∧
      ¬∃ t', read (joined h p (g ++ "===")) = .ok t' ∧ (t'.verify k).value = .ok () := by
  intro k c t h p g
  have he : joined h p g = t.encoded := by
    simp [String.ext_iff, toList_joined, h, p, g, t, Claims.signed, Claims.message]
  have hr : read (joined h p g) = .ok t := he ▸ c.read_signed ..
  have hk : t.SignedBy k .hs512 := (c.signedBy_signed_iff _ _ _ _).mpr ⟨by decide, rfl⟩
  have hv : (t.verify k).value = .ok () := value_verify_eq_ok_iff_exists.mpr ⟨.hs512, rfl, hk⟩
  have hg (pad : String) : (g ++ pad).toList =
      Base64Url.encode (k.mac .hs512 <| Utf8.encode (h ++ "." ++ p).toList) ++ pad.toList := by
    rw [← (read_joined_eq_ok_iff.mp hr).2.2.2.2.2, ← hk.eq, String.toList_append,
      String.toList_ofList]
  have ha : t.header.algorithm = some .hs512 := rfl
  clear_value h p g t
  refine ⟨hr, hv, ?_, ?_⟩
  · have hs : k.Spells .hs512 (Utf8.encode (h ++ "." ++ p).toList) (g ++ "==").toList := by
      rw [hg]
      exact (k.spells_append_iff .hs512 _ 2).mpr (by decide)
    obtain ⟨t', hr', hv'⟩ := (verify_joined_iff hr hv _).1.mpr ⟨.hs512, ha, hs⟩
    exact ⟨t', hr', hv', (verify_joined_iff hr hv _).2 t' hr' hv'⟩
  · intro hn
    obtain ⟨a, ha', hs⟩ := (verify_joined_iff hr hv _).1.mp hn
    obtain rfl : .hs512 = a := Option.some.inj <| ha.symm.trans ha'
    rw [hg] at hs
    exact absurd ((k.spells_append_iff .hs512 _ 3).mp hs) (by decide)

end AccessToken
end TokenLifecycle
