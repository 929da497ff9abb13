/-!
# Bounded integers

Integers that fit in so many bits.
-/

namespace Adjudication

/-- The first natural number that does not fit in sixty-four bits with a sign. -/
def int64Bound : Nat := 0x8000000000000000

/-- An integer as one of thirty-two bits without a sign, if it is in range. -/
def uint32OfInt? (k : Int) : Option UInt32 :=
  if 0 ≤ k && k < UInt32.size then some (UInt32.ofNat k.toNat) else none

end Adjudication
