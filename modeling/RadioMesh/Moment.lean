/-!
The surroundings of a step: the time on a clock that never goes back, the time of day, and random words.
-/

namespace RadioMesh

/-- Milliseconds on the clock that never goes back. -/
abbrev Instant := Nat

/-- A length of time in milliseconds. -/
abbrev Duration := Nat

namespace Duration

def seconds (n : Nat) : Duration := 1000 * n

def minutes (n : Nat) : Duration := seconds (60 * n)

def hours (n : Nat) : Duration := minutes (60 * n)

/-- What is left of a length of time, unless it was exceeded. -/
def left? (whole passed : Duration) : Option Duration :=
  if passed ≤ whole then some (whole - passed) else none

/-- Whole seconds, as far as they fit 32 bits. -/
def toSeconds (d : Duration) : UInt32 :=
  UInt32.ofNat (d / 1000)

end Duration

structure Moment where
  now : Instant
  /-- Seconds since the beginning of 1970. -/
  epoch : UInt32
  /-- Random words, used from the first on. -/
  words : Nat → UInt32

/-- The same moment with the first `n` words used up. -/
def Moment.skip (m : Moment) (n : Nat) : Moment :=
  { m with words := fun i => m.words (i + n) }

end RadioMesh
