/-!
# Ranges of characters

Classes of characters, given as closed ranges of code points in increasing order.
-/

namespace Adjudication.Text

/-- Closed ranges of code points, in increasing order. -/
structure Ranges where
  ranges : Array (Nat × Nat)

namespace Ranges

/-- Looks a code point up among the ranges from `lo` up to `hi`, in at most `fuel` halvings. -/
def search (r : Ranges) (code : Nat) : (fuel lo hi : Nat) → Bool
  | 0, _, _ => false
  | fuel + 1, lo, hi =>
    if lo < hi then
      let mid := (lo + hi) / 2
      match r.ranges[mid]? with
      | none => false
      | some (first, last) =>
        if code < first then r.search code fuel lo mid
        else if last < code then r.search code fuel (mid + 1) hi
        else true
    else false

def has (r : Ranges) (c : Char) : Bool := r.search c.toNat r.ranges.size 0 r.ranges.size

end Ranges

end Adjudication.Text
