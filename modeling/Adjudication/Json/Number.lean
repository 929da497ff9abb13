import Adjudication.Bounds
import Adjudication.Mismatch
import Adjudication.Text.Digits

/-!
# JSON numbers

A number as it is spelled. A spelling without fraction and exponent stands for an integer if that fits in
sixty-four bits, signed or not; every other spelling, and `-0`, stands for a floating-point number.
-/

namespace Adjudication.Json

/-- The parts of the spelling of a number; the digits are decimal. -/
structure Number where
  negative : Bool
  whole : List Char
  fraction : Option (List Char)
  /-- Whether the exponent is negative, and its digits. -/
  exponent : Option (Bool × List Char)
  deriving DecidableEq, Repr

namespace Number

/-- The integer a spelling stands for, if it stands for one. -/
def integer? (n : Number) : Option Int :=
  match n.fraction, n.exponent with
  | none, none =>
    let magnitude := Text.decimalValue n.whole
    if n.negative then
      if 0 < magnitude && magnitude ≤ int64Bound then some (-magnitude) else none
    else if magnitude < UInt64.size then some magnitude else none
  | _, _ => none

/-- Appends digits to a number as long as it fits in sixty-four bits, and says how many are left over. -/
def accumulate : Nat → List Char → Nat × Nat
  | n, [] => (n, 0)
  | n, c :: rest =>
    let next := 10 * n + (c.toNat - '0'.toNat)
    if next < UInt64.size then accumulate next rest else (n, rest.length + 1)

/-- The significand a spelling stands for and its exponent of ten, its own exponent not counted. Whole digits
that do not fit count as zeros, and digits of the fraction that do not fit are dropped. -/
def significand (n : Number) : Nat × Int :=
  let (m, excess) := accumulate 0 n.whole
  match n.fraction with
  | none => (m, excess)
  | some digits =>
    let (m, left) := accumulate m digits
    (m, (excess : Int) - (digits.length - left : Nat))

/-- `x / 10 ^ e`, in steps of at most `10 ^ 308`. -/
def scaleDown (x : Float) (e : Nat) : Float :=
  if e ≤ 308 then x / Float.ofScientific 1 false e
  else if x == 0 then x
  else scaleDown (x / Float.ofScientific 1 false 308) (e - 308)
termination_by e

/-- `m * 10 ^ e`, by one multiplication or by divisions; `none` if that is too great. -/
def scale? (m : Nat) (e : Int) : Option Float :=
  let x := (UInt64.ofNat m).toFloat
  if e < 0 then some (scaleDown x e.natAbs)
  else if e ≤ 308 then
    let y := x * Float.ofScientific 1 false e.toNat
    if y.isInf then none else some y
  else if x == 0 then some x
  else none

/-- An exponent is kept within thirty-two bits. -/
def clampExponent (e : Int) : Int := max (-0x80000000) (min 0x7fffffff e)

/-- The size of the floating-point number a spelling stands for; `none` if it is too great. -/
def magnitude? (n : Number) : Option Float :=
  let (m, e) := n.significand
  match n.exponent with
  | none => scale? m e
  | some (down, digits) =>
    let shift := Text.decimalValue digits
    if shift < 0x80000000 then scale? m (clampExponent (if down then e - shift else e + shift))
    else if m != 0 && !down then none
    else some 0

/-- The floating-point number a spelling stands for; `none` if it is too great. -/
def float? (n : Number) : Option Float :=
  n.magnitude?.map fun x => if n.negative then -x else x

def found? (n : Number) : Option Found :=
  match n.integer? with
  | some k => some (.integer k)
  | none => n.float?.map .float

end Number

end Adjudication.Json
