import ConnLease.Duration

/-!
# The scheduler

Leak checks run on a scheduler that does not belong to this library. Two things are left to it: how
long a sleep takes, and which way a check goes that finds its sleep over and its timer shut down at
the same moment. Nothing is fixed here about either. A result that needs a sleep to end on time says
so with `Punctual`, for the length that it is about.
-/

namespace ConnLease

/-- What checks leave to the scheduler that they run on. -/
class Scheduler where
  /-- How many milliseconds after its start a sleep of a given length is over. -/
  sleep (length : Duration) : Nat
  /-- Whether the check with a given number, finding both its sleep over and its timer shut down,
  goes by the sleep. -/
  prefersSleep (check : Nat) : Bool

/-- A sleep of the given length is over when that time has passed, in whole milliseconds, a part of
one counted as one. -/
def Punctual [Scheduler] (length : Duration) : Prop := Scheduler.sleep length = length.ceilMillis

/-- A scheduler for examples: every sleep ends on time, and a check whose timer has been shut down
goes by that. -/
abbrev Scheduler.exact : Scheduler where
  sleep := Duration.ceilMillis
  prefersSleep _ := false

end ConnLease
