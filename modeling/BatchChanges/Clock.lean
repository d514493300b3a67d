import BatchChanges.Time

/-! # A clock that is moved by hand

Time passes only when somebody moves the clock or sleeps. A clock keeps a record of how long was
slept. It cannot be moved past the end of the calendar.
-/

namespace BatchChanges

/-- The time now and all that was slept. -/
structure Clock where
  now : Time
  sleeps : List Duration := []
deriving DecidableEq

namespace Clock

/-- Moves the clock; a duration that is no span moves it by 5200 weeks. -/
def advance? (clock : Clock) (duration : Duration) : Option Clock :=
  let span := if duration.isSpan then duration else .century
  (clock.now.add? span).map fun now => { clock with now }

/-- Notes that somebody sleeps; the clock does not move yet. -/
def noting (clock : Clock) (duration : Duration) : Clock :=
  { clock with sleeps := clock.sleeps ++ [duration] }

end Clock

end BatchChanges
