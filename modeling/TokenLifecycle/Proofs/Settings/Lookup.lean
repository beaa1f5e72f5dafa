import Mathlib.Data.List.Basic
import Mathlib.Logic.Function.Basic
import TokenLifecycle.Gate

namespace TokenLifecycle

variable {lookup lookup' : String → Option String} {name secret v : String} {d : Span}

namespace Span

-- The span that a variable names, if it is set and names one.
def named? (lookup : String → Option String) (name : String) : Option Span :=
  (lookup name).bind ofText?

-- What is reported of a variable that is set but names no span.
def warnings (lookup : String → Option String) (name : String) (default : Span) : List Event :=
  match lookup name with
  | none   => []
  | some v => if ofText? v = none then [.defaultedSpan name v default] else []

theorem lookup_eq (lookup : String → Option String) (name : String) (d : Span) :
    Span.lookup lookup name d = ⟨(named? lookup name).getD d, warnings lookup name d⟩ := by
  unfold Span.lookup warnings
  split
  case h_1 hn   => simp [named?, hn, Logged.ext_iff]
  case h_2 v hn =>
    split
    case h_1 hv => simp [named?, hn, hv, Logged.ext_iff]
    case h_2 hv => simp [named?, hn, hv, Logged.ext_iff]

theorem mem_warnings_iff {e : Event} :
    e ∈ warnings lookup name d ↔
      ∃ v, lookup name = some v ∧ ofText? v = none ∧ e = .defaultedSpan name v d := by
  unfold warnings
  split
  case h_1 hn   => simp [hn]
  case h_2 v hn => split <;> simp_all

end Span

namespace Settings

-- Without a key in the variables there are no settings, and an empty one is none.
def NoKey (lookup : String → Option String) : Prop :=
  lookup Variable.secretKey = none ∨ lookup Variable.secretKey = some ""

-- The settings that the variables describe, the secret among them.
def described (lookup : String → Option String) (secret : String) : Settings where
  key                := ⟨Utf8.encode secret.toList⟩
  issuer             := some <| (lookup Variable.issuer).getD "authentication-manager"
  audience           := some <| (lookup Variable.audience).getD "metadata-manager"
  subject            := some <| (lookup Variable.subject).getD "AuthenticationToken"
  expiration         := (Span.named? lookup Variable.expiration).getD { seconds := 5 * 60 }
  refreshWindow      := (Span.named? lookup Variable.refreshWindow).getD { seconds := 24 * 3600 }
  availabilityWindow :=
    (Span.named? lookup Variable.availabilityWindow).getD { seconds := 7 * 24 * 3600 }
  leeway             := .standard

-- The variables that name windows, in the order in which they are looked up, and what the windows
-- are by default.
def windows : List (String × Span) := [
  (Variable.expiration, { seconds := 5 * 60 }),
  (Variable.refreshWindow, { seconds := 24 * 3600 }),
  (Variable.availabilityWindow, { seconds := 7 * 24 * 3600 })]

def warnings (lookup : String → Option String) : List Event :=
  windows.flatMap fun (name, d) => Span.warnings lookup name d

theorem lookup_of_noKey (h : NoKey lookup) :
    Settings.lookup lookup = ⟨.error .missingSecretKey, []⟩ := by
  unfold Settings.lookup
  cases h
  case inl h => rw [h]; rfl
  case inr h => rw [h]; rfl

theorem lookup_of_secret (h : lookup Variable.secretKey = some secret) (hn : secret ≠ "") :
    Settings.lookup lookup = ⟨.ok (described lookup secret), warnings lookup⟩ := by
  unfold Settings.lookup
  split
  case h_1 h' => cases h.symm.trans h'
  case h_2 h' => exact absurd (Option.some.inj <| h.symm.trans h') hn
  case h_3 h' =>
    obtain rfl := Option.some.inj <| h.symm.trans h'
    simp only [Span.lookup_eq]
    ext1
    case value  => simp [default, described]
    case events => simp [warnings, windows, default]

theorem exists_secret_of_not_noKey (h : ¬NoKey lookup) :
    ∃ secret, lookup Variable.secretKey = some secret ∧ secret ≠ "" := by
  have ⟨hn, he⟩ := not_or.mp h
  have ⟨secret, hs⟩ := Option.ne_none_iff_exists'.mp hn
  exact ⟨secret, hs, fun h => he (h ▸ hs)⟩

theorem value_lookup_eq_error_iff :
    (Settings.lookup lookup).value = .error .missingSecretKey ↔ NoKey lookup := by
  by_cases h : NoKey lookup
  case pos => simp [lookup_of_noKey h, h]
  case neg =>
    have ⟨secret, hs, hn⟩ := exists_secret_of_not_noKey h
    simp [lookup_of_secret hs hn, h]

theorem value_lookup_eq_ok_iff {s : Settings} :
    (Settings.lookup lookup).value = .ok s ↔
      ∃ secret ≠ "", lookup Variable.secretKey = some secret ∧ s = described lookup secret := by
  constructor
  case mp  =>
    intro hs
    have h : ¬NoKey lookup := fun h => by simp [lookup_of_noKey h] at hs
    have ⟨secret, h, hn⟩ := exists_secret_of_not_noKey h
    rw [lookup_of_secret h hn, Except.ok.injEq] at hs
    exact ⟨secret, hn, h, hs.symm⟩
  case mpr =>
    rintro ⟨secret, hn, h, rfl⟩
    rw [lookup_of_secret h hn]

-- The parts of the settings that there are variables for.
inductive Part where
  | key
  | issuer
  | audience
  | subject
  | expiration
  | refreshWindow
  | availabilityWindow
deriving DecidableEq

def Part.source : Part → String
  | key                => Variable.secretKey
  | issuer             => Variable.issuer
  | audience           => Variable.audience
  | subject            => Variable.subject
  | expiration         => Variable.expiration
  | refreshWindow      => Variable.refreshWindow
  | availabilityWindow => Variable.availabilityWindow

variable {s s' : Settings} {p : Part}

theorem Part.source_injective : Function.Injective source := by
  intro p q h
  cases p <;> cases q <;> first | rfl | exact absurd h (by decide)

def SameIn (s s' : Settings) : Part → Prop
  | .key                => s.key = s'.key
  | .issuer             => s.issuer = s'.issuer
  | .audience           => s.audience = s'.audience
  | .subject            => s.subject = s'.subject
  | .expiration         => s.expiration = s'.expiration
  | .refreshWindow      => s.refreshWindow = s'.refreshWindow
  | .availabilityWindow => s.availabilityWindow = s'.availabilityWindow

-- The settings but for one part, which is as it is in the others.
def withPart (s s' : Settings) : Part → Settings
  | .key                => { s with key := s'.key }
  | .issuer             => { s with issuer := s'.issuer }
  | .audience           => { s with audience := s'.audience }
  | .subject            => { s with subject := s'.subject }
  | .expiration         => { s with expiration := s'.expiration }
  | .refreshWindow      => { s with refreshWindow := s'.refreshWindow }
  | .availabilityWindow => { s with availabilityWindow := s'.availabilityWindow }

theorem eq_withPart (hl : s.leeway = s'.leeway) (h : ∀ q ≠ p, s.SameIn s' q) :
    s' = s.withPart s' p := by
  have hk : .key ≠ p → s.key = s'.key := h .key
  have hi : .issuer ≠ p → s.issuer = s'.issuer := h .issuer
  have ha : .audience ≠ p → s.audience = s'.audience := h .audience
  have hs : .subject ≠ p → s.subject = s'.subject := h .subject
  have he : .expiration ≠ p → s.expiration = s'.expiration := h .expiration
  have hr : .refreshWindow ≠ p → s.refreshWindow = s'.refreshWindow := h .refreshWindow
  have hv : .availabilityWindow ≠ p → s.availabilityWindow = s'.availabilityWindow :=
    h .availabilityWindow
  cases p <;> simp_all [withPart]

-- Whatever the other variables hold, a part is as its own variable has it.
theorem sameIn_of_eq (hs : (Settings.lookup lookup).value = .ok s)
    (hs' : (Settings.lookup lookup').value = .ok s') (h : lookup p.source = lookup' p.source) :
    s.SameIn s' p := by
  have ⟨secret, _, hk, hd⟩ := value_lookup_eq_ok_iff.mp hs
  have ⟨secret', _, hk', hd'⟩ := value_lookup_eq_ok_iff.mp hs'
  subst hd hd'
  cases p
  case key =>
    have hk : secret = secret' := Option.some.inj <| hk.symm.trans <| h.trans hk'
    simp only [SameIn, described, hk]
  all_goals simp_all only [SameIn, described, Span.named?, Part.source]

theorem leeway_of_lookup (hs : (Settings.lookup lookup).value = .ok s) : s.leeway = .standard := by
  have ⟨_, _, _, hd⟩ := value_lookup_eq_ok_iff.mp hs
  rw [hd, described]

-- No other variable than those of the parts is looked up.
theorem lookup_congr (h : ∀ p : Part, lookup p.source = lookup' p.source) :
    Settings.lookup lookup = Settings.lookup lookup' := by
  have hk : lookup Variable.secretKey = lookup' Variable.secretKey := h .key
  have hi : lookup Variable.issuer = lookup' Variable.issuer := h .issuer
  have ha : lookup Variable.audience = lookup' Variable.audience := h .audience
  have hs : lookup Variable.subject = lookup' Variable.subject := h .subject
  have he : lookup Variable.expiration = lookup' Variable.expiration := h .expiration
  have hr : lookup Variable.refreshWindow = lookup' Variable.refreshWindow := h .refreshWindow
  have hv : lookup Variable.availabilityWindow = lookup' Variable.availabilityWindow :=
    h .availabilityWindow
  simp only [Settings.lookup, Span.lookup, hk, hi, ha, hs, he, hr, hv]

open Function (update)

theorem eq_withPart_of_update (w : Option String) (hs : (Settings.lookup lookup).value = .ok s)
    (hs' : (Settings.lookup (update lookup p.source w)).value = .ok s') :
    s' = s.withPart s' p := by
  refine eq_withPart ((leeway_of_lookup hs).trans (leeway_of_lookup hs').symm) fun q hq => ?_
  exact sameIn_of_eq hs hs' (Function.update_of_ne (Part.source_injective.ne hq) ..).symm

-- What the windows are read from is apart from what the rest is read from, and no two of them are
-- read from the same variable.

theorem ne_of_mem_windows : ∀ w ∈ windows, w.1 ≠ Variable.secretKey ∧ w.1 ≠ Variable.issuer ∧
    w.1 ≠ Variable.audience ∧ w.1 ≠ Variable.subject := by
  decide

theorem eq_of_mem_windows : ∀ w ∈ windows, ∀ w' ∈ windows, w.1 = w'.1 → w = w' := by
  decide

theorem described_unset (hw : (name, d) ∈ windows) (hn : Span.named? lookup name = none)
    (secret : String) : described (update lookup name none) secret = described lookup secret := by
  have hs (n : String) : Span.named? (update lookup name none) n = Span.named? lookup n := by
    by_cases h : n = name
    case pos => rw [h, hn, Span.named?, Function.update_self, Option.bind_none]
    case neg => rw [Span.named?, Function.update_of_ne h, Span.named?]
  have ⟨_, hi, ha, hj⟩ := ne_of_mem_windows _ hw
  simp only [described, hs, Function.update_of_ne hi.symm, Function.update_of_ne ha.symm,
    Function.update_of_ne hj.symm]

theorem warnings_unset (hw : (name, d) ∈ windows) (h : lookup name = some v)
    (hn : Span.ofText? v = none) :
    warnings (update lookup name none) =
      (warnings lookup).filter (· ≠ .defaultedSpan name v d) := by
  rw [warnings, warnings, List.filter_flatMap]
  apply List.flatMap_congr
  rintro ⟨n, d'⟩ hw'
  by_cases he : n = name
  case pos =>
    obtain rfl := he
    have hd : d' = d := congrArg Prod.snd <| eq_of_mem_windows _ hw' _ hw rfl
    simp [Span.warnings, h, hn, hd]
  case neg =>
    have hm : ∀ e ∈ Span.warnings lookup n d', e ≠ .defaultedSpan name v d := by
      intro e hm
      obtain ⟨_, _, _, rfl⟩ := Span.mem_warnings_iff.mp hm
      rw [ne_eq, Event.defaultedSpan.injEq]
      exact fun h => he h.1
    rw [List.filter_eq_self.mpr (by simpa using hm)]
    simp only [Span.warnings, Function.update_of_ne he]

theorem lookup_unset (hw : (name, d) ∈ windows) (h : lookup name = some v)
    (hn : Span.ofText? v = none) :
    (Settings.lookup (update lookup name none)).value = (Settings.lookup lookup).value ∧
    (Settings.lookup (update lookup name none)).events =
      (Settings.lookup lookup).events.filter (· ≠ .defaultedSpan name v d) := by
  have hk : update lookup name none Variable.secretKey = lookup Variable.secretKey :=
    Function.update_of_ne (ne_of_mem_windows _ hw).1.symm ..
  by_cases hs : NoKey lookup
  case pos =>
    have hs' : NoKey (update lookup name none) := by rwa [NoKey, hk]
    simp [lookup_of_noKey hs, lookup_of_noKey hs']
  case neg =>
    have ⟨secret, hs, he⟩ := exists_secret_of_not_noKey hs
    have hd : Span.named? lookup name = none := by rw [Span.named?, h, Option.bind_some, hn]
    rw [lookup_of_secret hs he, lookup_of_secret (hk.trans hs) he, described_unset hw hd,
      warnings_unset hw h hn]
    exact ⟨rfl, rfl⟩

-- Nothing is reported but windows that go by their default.
theorem of_mem_warnings {e : Event} (h : e ∈ warnings lookup) :
    ∃ name v d, e = .defaultedSpan name v d := by
  have ⟨(n, d), _, h⟩ := List.mem_flatMap.mp h
  have ⟨v, _, _, he⟩ := Span.mem_warnings_iff.mp h
  exact ⟨n, v, d, he⟩

end Settings

theorem Gate.lookup_eq {δ : Type} (directory : δ) (lookup : String → Option String) :
    Gate.lookup directory lookup =
      ⟨(Settings.lookup lookup).value.map fun settings => {
          directory
          target := (lookup Variable.target).getD "postgres://localhost/tsurugi"
          settings },
        (Settings.lookup lookup).events⟩ := by
  unfold Gate.lookup
  cases hs : (Settings.lookup lookup).value
  case error => simp [Logged.ext_iff, hs, Except.map]
  case ok => simp [Logged.ext_iff, hs, Except.map, defaultTarget]

namespace Settings

open Function (update)

-- There are settings if there is a key, and then everything else is as its variable has it or else
-- by default. Each window that its variable does not name is reported once, in their order, and
-- might as well have been left open. A part of the settings has to do with its own variable alone,
-- and nothing at all with those that belong to no part. A gate is had from the same variables as
-- its settings, and from its target.
theorem variables_decide (lookup : String → Option String) :
    ((Settings.lookup lookup).value = .error .missingSecretKey ↔ NoKey lookup) ∧
    (∀ s, (Settings.lookup lookup).value = .ok s ↔
      ∃ secret ≠ "", lookup Variable.secretKey = some secret ∧ s = described lookup secret) ∧
    ((NoKey lookup → (Settings.lookup lookup).events = []) ∧
      (¬NoKey lookup → (Settings.lookup lookup).events = warnings lookup) ∧
      ∀ e ∈ warnings lookup, e.level = .warn ∧
        e.message = "unable to parse duration, using default") ∧
    (∀ name d v, (name, d) ∈ windows → lookup name = some v → Span.ofText? v = none →
      let unset := Settings.lookup (update lookup name none)
      unset.value = (Settings.lookup lookup).value ∧
      unset.events = (Settings.lookup lookup).events.filter (· ≠ .defaultedSpan name v d)) ∧
    (∀ (p : Part) w s s', (Settings.lookup lookup).value = .ok s →
      (Settings.lookup (update lookup p.source w)).value = .ok s' → s' = s.withPart s' p) ∧
    (∀ lookup', (∀ p : Part, lookup p.source = lookup' p.source) →
      Settings.lookup lookup = Settings.lookup lookup') ∧
    ∀ (δ : Type) (directory : δ), Gate.lookup directory lookup =
      ⟨(Settings.lookup lookup).value.map fun settings => {
          directory
          target := (lookup Variable.target).getD "postgres://localhost/tsurugi"
          settings },
        (Settings.lookup lookup).events⟩ := by
  refine ⟨value_lookup_eq_error_iff, fun _ => value_lookup_eq_ok_iff, ⟨?_, ?_, ?_⟩,
    fun _ _ _ hw h hn => lookup_unset hw h hn, fun _ w _ _ => eq_withPart_of_update w,
    fun _ => lookup_congr, fun _ directory => Gate.lookup_eq directory lookup⟩
  · exact fun h => congrArg Logged.events <| lookup_of_noKey h
  · intro h
    have ⟨_, hs, hn⟩ := exists_secret_of_not_noKey h
    exact congrArg Logged.events <| lookup_of_secret hs hn
  · intro e he
    obtain ⟨_, _, _, rfl⟩ := of_mem_warnings he
    exact ⟨rfl, rfl⟩

-- An issuer without a name, a window that nobody can read, and a variable that nobody looks at.
theorem variables_decide_of_unreadable_window :
    let lookup : String → Option String := fun name =>
      if name = Variable.secretKey then some "k"
      else if name = Variable.issuer then some ""
      else if name = Variable.expiration then some "soon"
      else if name = Variable.refreshWindow then some " 2h "
      else none
    let unset := update lookup Variable.expiration none
    let other := update lookup "WARDEN_TOKEN_EXPIRATION_REFRESHED" (some "1s")
    let s : Settings := {
      key           := ⟨[0x6b]⟩
      issuer        := some ""
      refreshWindow := { seconds := 7200 } }
    ((Settings.lookup lookup).value = .ok s ∧
      (Settings.lookup lookup).events =
        [.defaultedSpan Variable.expiration "soon" { seconds := 300 }]) ∧
    ((Settings.lookup unset).value = .ok s ∧ (Settings.lookup unset).events = []) ∧
    Settings.lookup lookup = Settings.lookup other ∧
    ∀ s', (Settings.lookup (update lookup Variable.issuer none)).value = .ok s' →
      s' = { s with issuer := s'.issuer } := by
  intro lookup unset other s
  have ⟨_, hv, ⟨_, he, _⟩, hu, hp, ho, _⟩ := variables_decide lookup
  have hs : (Settings.lookup lookup).value = .ok s := (hv s).mpr ⟨"k", by decide, rfl, by decide⟩
  have hk : ¬NoKey lookup := not_or.mpr ⟨by decide, by decide⟩
  have hr : (Settings.lookup lookup).events =
      [.defaultedSpan Variable.expiration "soon" { seconds := 300 }] :=
    (he hk).trans <| by decide
  have ⟨hu, hl⟩ := hu Variable.expiration { seconds := 300 } "soon" (by decide) rfl (by decide)
  refine ⟨⟨hs, hr⟩, ⟨hu.trans hs, hl.trans <| by rw [hr]; decide⟩, ho _ fun p => ?_, fun s' => ?_⟩
  · cases p <;> rfl
  · exact hp .issuer none s s' hs

end Settings
end TokenLifecycle
