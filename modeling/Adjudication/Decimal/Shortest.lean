/-!
# Shortest decimals

The shortest decimal that reads back as a given binary number, found in exact arithmetic: of the decimal grids
with one digit, two digits and so on, the first that has a point in the interval of reals that round to the
number, and of its points the one nearest to the number. Which of two that are equally near is a choice.
-/

namespace Adjudication.Decimal

inductive Tie where
  | toEven
  | up
  deriving DecidableEq, Repr

/-- The number `digits * 10 ^ scale`. -/
structure Scaled where
  digits : Nat
  scale : Int
  deriving DecidableEq, Repr

def twoTo (n : Nat) : Nat := Nat.pow 2 n

def tenTo (n : Nat) : Nat := Nat.pow 10 n

def leastSignificand : Nat := 0x10000000000000

structure Ratio where
  num : Nat
  den : Nat
  deriving DecidableEq, Repr

def Ratio.ofBinary (n : Nat) (q : Int) : Ratio := ⟨n * twoTo q.toNat, twoTo (-q).toNat⟩

def digitCount (n : Nat) : Nat := (Nat.toDigits 10 n).length

def Ratio.magnitude (r : Ratio) : Int :=
  if r.den ≤ r.num then (digitCount (r.num / r.den) : Int) - 1
  else
    let inverse := (r.den + r.num - 1) / r.num
    if inverse ≤ 1 then 0 else -(digitCount (inverse - 1) : Int)

/-- The reals that round to a number: between `low` and `high`, the ends included or not. All three share one
denominator. -/
structure Interval where
  low : Nat
  value : Nat
  high : Nat
  den : Nat
  closed : Bool
  deriving DecidableEq, Repr

namespace Interval

def has (i : Interval) (num : Nat) : Bool :=
  if i.closed then i.low ≤ num && num ≤ i.high else i.low < num && num < i.high

/-- The interval with all of it multiplied by `10 ^ -scale`. -/
def shift (i : Interval) (scale : Int) : Interval :=
  let up := tenTo (-scale).toNat
  { i with low := i.low * up, value := i.value * up, high := i.high * up, den := i.den * tenTo scale.toNat }

/-- The multiple of `10 ^ scale` in the interval that is nearest to its value. -/
def pick? (i : Interval) (tie : Tie) (scale : Int) : Option Scaled :=
  let j := i.shift scale
  let below := j.value / j.den
  let above := below + 1
  match j.has (below * j.den) && 0 < below, j.has (above * j.den) with
  | true, true =>
    let down := j.value - below * j.den
    let up := above * j.den - j.value
    if down < up || (down = up && tie = .toEven && below % 2 = 0) then some ⟨below, scale⟩ else some ⟨above, scale⟩
  | true, false => some ⟨below, scale⟩
  | false, true => some ⟨above, scale⟩
  | false, false => none

/-- Tries grids of more and more digits, the leading one at `magnitude`. -/
def search (i : Interval) (tie : Tie) (magnitude : Int) : (fuel digits : Nat) → Option Scaled
  | 0, _ => none
  | fuel + 1, digits =>
    match i.pick? tie (magnitude - digits) with
    | some d => some d
    | none => i.search tie magnitude fuel (digits + 1)

end Interval

/-- The reals that round to the finite binary number `mantissa * 2 ^ exponent` of fifty-three bits; the gap
below a power of two is half as wide, unless the exponent is the least there is. -/
def Interval.ofBinary (mantissa : Nat) (exponent : Int) : Interval :=
  let narrow := mantissa = leastSignificand && -1074 < exponent
  let r := Ratio.ofBinary 1 (exponent - 2)
  { low := (4 * mantissa - if narrow then 1 else 2) * r.num
    value := 4 * mantissa * r.num
    high := (4 * mantissa + 2) * r.num
    den := r.den
    closed := mantissa % 2 = 0 }

/-- The shortest decimal that reads back as `mantissa * 2 ^ exponent`, which is positive. Seventeen digits are
always enough. -/
def shortest (tie : Tie) (mantissa : Nat) (exponent : Int) : Scaled :=
  let i := Interval.ofBinary mantissa exponent
  let magnitude := Ratio.magnitude ⟨i.value, i.den⟩
  (i.search tie magnitude 18 0).getD ⟨0, 0⟩

def Scaled.strip (d : Scaled) : (fuel : Nat) → Scaled
  | 0 => d
  | fuel + 1 =>
    if d.digits % 10 = 0 && d.digits != 0 then strip ⟨d.digits / 10, d.scale + 1⟩ fuel else d

end Adjudication.Decimal
