/-!
# Tallied delays

Time that passes on the bench is added up and not waited for. The sum is kept in nanoseconds, below
2^64, and the count below 2^32; both stop at their largest value.
-/

namespace SoundCard

structure DelayTally where
  nanoseconds : Nat := 0
  count : Nat := 0
  deriving DecidableEq

namespace DelayTally

def add (d : DelayTally) (nanoseconds : Nat) : DelayTally where
  nanoseconds := min (d.nanoseconds + nanoseconds) (UInt64.size - 1)
  count := min (d.count + 1) (UInt32.size - 1)

def addMicroseconds (d : DelayTally) (us : UInt32) : DelayTally := d.add (us.toNat * 1000)

def addNanoseconds (d : DelayTally) (ns : UInt32) : DelayTally := d.add ns.toNat

/-- The whole microseconds. -/
def microseconds (d : DelayTally) : Nat := d.nanoseconds / 1000

end DelayTally

end SoundCard
