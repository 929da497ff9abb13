import Adjudication.Decimal.Shortest

/-!
# Nearest binary numbers

The floating-point number nearest to a decimal, found in exact arithmetic; of two that are equally near, the
one with the even significand.
-/

namespace Adjudication.Decimal

/-- The natural number nearest to a quotient, the even one of two. -/
def roundQuotient (num den : Nat) : Nat :=
  let below := num / den
  let rest := num % den
  if 2 * rest < den || (2 * rest = den && below % 2 = 0) then below else below + 1

/-- The exponent of two of the last of fifty-three bits of a positive ratio; there is a least one. -/
def Ratio.lastBit (r : Ratio) : Int :=
  let guess := (r.num.log2 : Int) - r.den.log2 - 53
  let unit := Ratio.ofBinary (2 * leastSignificand) guess
  max (-1074) (if unit.num * r.den ≤ r.num * unit.den then guess + 1 else guess)

def infinityBits : Nat := 2047 * leastSignificand

/-- The bits of the floating-point number nearest to a positive ratio, or of infinity if that is too great. -/
def Ratio.nearestBits (r : Ratio) : Nat :=
  let exponent := r.lastBit
  let unit := Ratio.ofBinary 1 exponent
  let significand := roundQuotient (r.num * unit.den) (r.den * unit.num)
  min infinityBits ((exponent + 1074).toNat * leastSignificand + significand)

def Scaled.ratio (d : Scaled) : Ratio := ⟨d.digits * tenTo d.scale.toNat, tenTo (-d.scale).toNat⟩

/-- The floating-point number nearest to a decimal. Beyond four hundred places, up or down, nothing depends on the
digits any more. -/
def Scaled.nearest (d : Scaled) : Float :=
  let magnitude := d.scale + digitCount d.digits
  if d.digits = 0 || magnitude < -400 then 0
  else if 400 < magnitude then Float.ofBits (UInt64.ofNat infinityBits)
  else Float.ofBits (UInt64.ofNat d.ratio.nearestBits)

end Adjudication.Decimal
