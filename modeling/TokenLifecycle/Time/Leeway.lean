import TokenLifecycle.Time.Instant

namespace TokenLifecycle

-- How far two clocks may disagree before a horizon counts as passed, or an instant as still to
-- come.
@[ext]
structure Leeway where
  tolerance : Span
deriving DecidableEq

namespace Leeway

def standard : Leeway := ⟨{ seconds := 10 }⟩

def strict : Leeway := ⟨.zero⟩

-- The deadline has passed, even on a clock that runs late by the whole tolerance.
def Elapsed (l : Leeway) (deadline now : Instant) : Prop :=
  deadline + l.tolerance < now

-- The instant is still to come, even on a clock that runs early by the whole tolerance.
def Premature (l : Leeway) (start now : Instant) : Prop :=
  now + l.tolerance < start

instance (l : Leeway) (deadline now : Instant) : Decidable (l.Elapsed deadline now) :=
  inferInstanceAs (Decidable (_ < _))

instance (l : Leeway) (start now : Instant) : Decidable (l.Premature start now) :=
  inferInstanceAs (Decidable (_ < _))

variable {l : Leeway} {t now : Instant}

-- No instant lies beyond the last one, so stopping there changes no comparison.
theorem elapsed_iff : l.Elapsed t now ↔ t.seconds + l.tolerance.seconds < now.seconds := by
  have := now.bound
  simp only [Elapsed, Instant.lt_iff, Instant.seconds_add]
  omega

theorem elapsed_add_iff {d : Span} :
    l.Elapsed (t + d) now ↔ t.seconds + d.seconds + l.tolerance.seconds < now.seconds := by
  have := now.bound
  simp only [elapsed_iff, Instant.seconds_add]
  omega

theorem premature_iff : l.Premature t now ↔ now.seconds + l.tolerance.seconds < t.seconds := by
  have := t.bound
  simp only [Premature, Instant.lt_iff, Instant.seconds_add]
  omega

end Leeway
end TokenLifecycle
