namespace TokenLifecycle

-- The largest number of seconds that a span or an instant can hold. Arithmetic that would leave
-- the range stops at its ends.
def maxSeconds : Nat := UInt64.size - 1

-- A length of time in whole seconds.
@[ext]
structure Span where
  seconds : Nat
  bound   : seconds ≤ maxSeconds := by decide
deriving DecidableEq

-- A point in time, in whole seconds after the epoch.
@[ext]
structure Instant where
  seconds : Nat
  bound   : seconds ≤ maxSeconds := by decide
deriving DecidableEq

namespace Span

def zero : Span := { seconds := 0 }

def saturating (n : Nat) : Span :=
  ⟨min n maxSeconds, Nat.min_le_right ..⟩

-- The span of exactly `n` seconds, if there is one.
def ofNat? (n : Nat) : Option Span :=
  if h : n ≤ maxSeconds then some ⟨n, h⟩ else none

def render (d : Span) : String :=
  toString d.seconds ++ "s"

theorem eq_zero_iff {d : Span} : d = zero ↔ d.seconds = 0 :=
  Span.ext_iff

theorem ofNat?_eq_some_iff {n : Nat} {d : Span} : ofNat? n = some d ↔ d.seconds = n := by
  have := d.bound
  simp only [ofNat?]
  split
  · simp [Span.ext_iff, eq_comm]
  · simp only [reduceCtorEq, false_iff]; omega

end Span

namespace Instant

variable {t t₁ t₂ : Instant} {d : Span}

def epoch : Instant := { seconds := 0 }

def saturating (n : Nat) : Instant :=
  ⟨min n maxSeconds, Nat.min_le_right ..⟩

-- The instant exactly `n` seconds after the epoch, if there is one.
def ofNat? (n : Nat) : Option Instant :=
  if h : n ≤ maxSeconds then some ⟨n, h⟩ else none

def render (t : Instant) : String :=
  toString t.seconds

instance : HAdd Instant Span Instant where
  hAdd t d := saturating (t.seconds + d.seconds)

instance : HSub Instant Span Instant where
  hSub t d := ⟨t.seconds - d.seconds, Nat.le_trans (Nat.sub_le ..) t.bound⟩

-- The time from `t₂` to `t₁`, which is no time at all if `t₂` comes later.
instance : HSub Instant Instant Span where
  hSub t₁ t₂ := ⟨t₁.seconds - t₂.seconds, Nat.le_trans (Nat.sub_le ..) t₁.bound⟩

instance : LE Instant where
  le t₁ t₂ := t₁.seconds ≤ t₂.seconds

instance : LT Instant where
  lt t₁ t₂ := t₁.seconds < t₂.seconds

instance : DecidableLE Instant :=
  fun t₁ t₂ => inferInstanceAs (Decidable (t₁.seconds ≤ t₂.seconds))

instance : DecidableLT Instant :=
  fun t₁ t₂ => inferInstanceAs (Decidable (t₁.seconds < t₂.seconds))

instance : Ord Instant where
  compare t₁ t₂ := compare t₁.seconds t₂.seconds

instance : Min Instant where
  min t₁ t₂ := if t₁ ≤ t₂ then t₁ else t₂

theorem le_iff : t₁ ≤ t₂ ↔ t₁.seconds ≤ t₂.seconds :=
  .rfl

theorem lt_iff : t₁ < t₂ ↔ t₁.seconds < t₂.seconds :=
  .rfl

@[simp]
theorem seconds_add : (t + d).seconds = min (t.seconds + d.seconds) maxSeconds :=
  rfl

@[simp]
theorem seconds_sub : (t - d).seconds = t.seconds - d.seconds :=
  rfl

@[simp]
theorem seconds_since : (t₁ - t₂ : Span).seconds = t₁.seconds - t₂.seconds :=
  rfl

@[simp]
theorem seconds_min : (min t₁ t₂).seconds = min t₁.seconds t₂.seconds := by
  simp only [min, le_iff]
  split <;> omega

theorem ofNat?_eq_some_iff {n : Nat} : ofNat? n = some t ↔ t.seconds = n := by
  have := t.bound
  simp only [ofNat?]
  split
  · simp [Instant.ext_iff, eq_comm]
  · simp only [reduceCtorEq, false_iff]; omega

theorem ofNat?_seconds (t : Instant) : ofNat? t.seconds = some t :=
  ofNat?_eq_some_iff.mpr rfl

end Instant

-- A length of time as finer clocks give it. Lifetimes are whole seconds, so what is left of the
-- last second is dropped.
structure FineSpan where
  whole       : Span
  nanoseconds : Nat

namespace FineSpan

-- Nanoseconds that make up full seconds count as such.
def toSpan (d : FineSpan) : Span :=
  .saturating (d.whole.seconds + d.nanoseconds / 1000000000)

def ofSpan (d : Span) : FineSpan where
  whole       := d
  nanoseconds := 0

-- The instant that a clock shows which is this far off the epoch. Before the epoch there are no
-- instants, so every such time is taken for the epoch.
def toInstant (d : FineSpan) (beforeEpoch : Bool) : Instant :=
  if beforeEpoch then .epoch else Instant.epoch + d.toSpan

end FineSpan
end TokenLifecycle
