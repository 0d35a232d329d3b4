import LoadProbe.Binary64.Basic
import LoadProbe.Word

/-!
# Lengths of time

A length of time is a whole number of nanoseconds, and so is an instant: the time since the start
of the clock.
-/

namespace LoadProbe

/-- A length of time in nanoseconds. -/
abbrev Duration : Type := Nat

namespace Duration

/-- The given number of seconds and nanoseconds. -/
def ofParts (seconds nanos : Nat) : Duration := seconds * 1000000000 + nanos

/-- The given number of seconds. -/
def ofSeconds (n : Nat) : Duration := ofParts n 0

/-- The given number of milliseconds. -/
def ofMillis (n : Nat) : Duration := n * 1000000

/-- Nobody sleeps for longer than thirty years of 365 days. -/
def longestSleep : Duration := ofSeconds 946080000

/-- How long someone sleeps who means to sleep for the given time. -/
def asleep (d : Duration) : Duration := min d longestSleep

/-- The whole microseconds, within 64 bits. -/
def micros (d : Duration) : Nat := min (d / 1000) Word.max64

/-- The seconds as a floating-point number: the whole seconds and the fraction are rounded, and so
is their sum. -/
def toSeconds (d : Duration) : Binary64 :=
  Binary64.add (Binary64.ofNat (d / 1000000000))
    (Binary64.div (Binary64.ofNat (d % 1000000000)) (Binary64.ofNat 1000000000))

end Duration

end LoadProbe
