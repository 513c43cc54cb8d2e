/-!
# Clocks

Time is counted in nanoseconds. A `Clock` holds what the two clocks of the program show: one that
only moves forward, used for durations, and the wall clock, used for timestamps.
-/

set_option autoImplicit false

namespace RpcProxy

/-- A reading of the clock that only moves forward, in nanoseconds. -/
abbrev Instant := Nat

structure Clock where
  /-- The clock that only moves forward. -/
  monotonic : Instant := 0
  /-- Nanoseconds since the start of 1970. -/
  wall : Int := 0
deriving DecidableEq, Repr, Inhabited

/-- Both clocks after some nanoseconds. -/
def Clock.advance (c : Clock) (nanos : Nat) : Clock :=
  { monotonic := c.monotonic + nanos, wall := c.wall + nanos }

/-- Nanoseconds in a microsecond. -/
def micro : Nat := 1000

/-- Nanoseconds in a millisecond. -/
def milli : Nat := 1000000

/-- Nanoseconds in a second. -/
def second : Nat := 1000000000

/-- A span of time in seconds, as a double: whole seconds plus the nanoseconds over `10 ^ 9`. -/
def secondsOf (nanos : Nat) : Float :=
  Float.ofNat (nanos / second) + Float.ofNat (nanos % second) / Float.ofNat second

end RpcProxy
