import TokenLifecycle.Time.Instant

namespace TokenLifecycle

-- The ceiling on a token and on every token that is renewed from it.
inductive Availability where
  | unbounded
  | bounded (ceiling : Instant)
deriving DecidableEq

namespace Availability

variable {av : Availability} {t now : Instant} {window : Span}

-- Written down, the epoch is the mark of no ceiling.
def ofInstant (t : Instant) : Availability :=
  if t = .epoch then unbounded else bounded t

def toInstant : Availability → Instant
  | unbounded       => .epoch
  | bounded ceiling => ceiling

-- The ceiling of a token that is issued `now`. A window of no length means that there is none.
def fromWindow (now : Instant) (window : Span) : Availability :=
  if window = .zero then unbounded else ofInstant (now + window)

def deadline? : Availability → Option Instant
  | unbounded       => none
  | bounded ceiling => some ceiling

def clamp (av : Availability) (t : Instant) : Instant :=
  match av with
  | unbounded       => t
  | bounded ceiling => min t ceiling

def render : Availability → String
  | unbounded       => "unbounded"
  | bounded ceiling => ceiling.render

-- Only a ceiling at the epoch itself is lost when it is written down and read again.
theorem ofInstant_toInstant (h : av ≠ bounded .epoch) : ofInstant av.toInstant = av := by
  cases av <;> simp_all [ofInstant, toInstant]

theorem ofInstant_ne_bounded_epoch (t : Instant) : ofInstant t ≠ bounded .epoch := by
  simp only [ofInstant]
  split <;> simp_all

theorem fromWindow_ne_bounded_epoch (now : Instant) (window : Span) :
    fromWindow now window ≠ bounded .epoch := by
  unfold fromWindow
  split
  case isTrue  => nofun
  case isFalse => exact ofInstant_ne_bounded_epoch _

theorem seconds_clamp_le (h : av = bounded t) (t' : Instant) :
    (av.clamp t').seconds ≤ t.seconds := by
  subst h
  simp only [clamp, Instant.seconds_min]
  exact Nat.min_le_right ..

-- A window of any length, added to any instant, ends after the epoch, so it always gives a ceiling.
theorem fromWindow_of_ne_zero (h : window ≠ .zero) :
    fromWindow now window = bounded (now + window) := by
  have : now + window ≠ .epoch := by
    intro h'
    have := congrArg Instant.seconds h'
    have : window.seconds ≠ 0 := fun hz => h <| Span.ext hz
    simp only [Instant.seconds_add, Instant.epoch, maxSeconds, UInt64.size] at *
    omega
  simp [fromWindow, ofInstant, h, this]

end Availability
end TokenLifecycle
