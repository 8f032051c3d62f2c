import Mathlib

/-! # Counting UTC seconds

`utc.c`: labels are Unix seconds, and an announced leap second is identified by the
midnight that follows it. An inserted second repeats the label before it, flagged;
a deleted one is skipped.
-/

namespace GpsClock.Platform

structure UtcLeap where
  eventUtc : BitVec 32
  change : Int
  deriving DecidableEq, Repr

/-- `leap->change != 0 ? leap : NULL`. -/
def UtcLeap.announced (leap : UtcLeap) : Option UtcLeap :=
  if leap.change = 0 then none else some leap

/-- `utc_advance`: the label, and whether it is an inserted 23:59:60. -/
def utcAdvance (label : BitVec 32) (labelIsLeap : Bool) (seconds : BitVec 32)
    (leap : Option UtcLeap) : BitVec 32 × Bool :=
  let result := label + seconds
  let resultIsLeap := labelIsLeap && seconds == 0
  match leap with
  | none => (result, resultIsLeap)
  | some leap =>
      if seconds = 0 then (result, resultIsLeap)
      else if 0 < leap.change ∧ !labelIsLeap ∧ label < leap.eventUtc ∧ leap.eventUtc ≤ result then
        (result - 1, result == leap.eventUtc)
      else if leap.change < 0 ∧ label < leap.eventUtc - 1 ∧ leap.eventUtc - 1 ≤ result then
        (result + 1, resultIsLeap)
      else (result, resultIsLeap)

end GpsClock.Platform
