import Adjudication.Decimal.Shortest

/-!
# Texts of floating-point numbers

A number is written with the fewest digits that read back, and always with a point. A style says which numbers
are written positionally; the others have one digit before the point and an exponent. It also says which of two
shortest decimals is taken that are equally near to the number.
-/

namespace Adjudication.Decimal

structure FloatStyle where
  /-- Which numbers are written without an exponent: those whose leading digit stands within the given exponents
  of ten, or all of them. -/
  positional : Option (Int × Int)
  tie : Tie

/-- Whether a number with its leading digit at `10 ^ magnitude` is written without an exponent. -/
def FloatStyle.isPositional (style : FloatStyle) (magnitude : Int) : Bool :=
  match style.positional with
  | none => true
  | some (least, greatest) => least ≤ magnitude && magnitude ≤ greatest

/-- Digits with the point where it belongs, the leading digit at `10 ^ magnitude`. -/
def positionalText (digits : List Char) (magnitude : Int) : String :=
  if magnitude < 0 then
    "0." ++ String.ofList (List.replicate (-magnitude - 1).toNat '0' ++ digits)
  else
    let whole := magnitude.toNat + 1
    let fraction := digits.drop whole
    String.ofList (digits.take whole ++ List.replicate (whole - digits.length) '0') ++ "." ++
      (if fraction.isEmpty then "0" else String.ofList fraction)

/-- One digit, the others behind a point, and the exponent with its sign. -/
def exponentText (digits : List Char) (magnitude : Int) : String :=
  let fraction := digits.drop 1
  String.ofList (digits.take 1) ++ (if fraction.isEmpty then "" else "." ++ String.ofList fraction) ++
    (if magnitude < 0 then "e-" else "e+") ++ toString magnitude.natAbs

def FloatStyle.decimalText (style : FloatStyle) (d : Scaled) : String :=
  let d := d.strip 20
  let digits := Nat.toDigits 10 d.digits
  let magnitude := d.scale + (digits.length : Int) - 1
  if style.isPositional magnitude then positionalText digits magnitude else exponentText digits magnitude

/-- The text of a number. -/
def FloatStyle.text (style : FloatStyle) (x : Float) : String :=
  let bits := x.toBits.toNat
  let sign := if bits / 0x8000000000000000 = 1 then "-" else ""
  let exponent : Nat := bits / leastSignificand % 2048
  let fraction := bits % leastSignificand
  if exponent = 2047 then
    if fraction = 0 then sign ++ "inf" else "NaN"
  else if exponent = 0 && fraction = 0 then sign ++ "0.0"
  else if exponent = 0 then sign ++ style.decimalText (shortest style.tie fraction (-1074))
  else sign ++ style.decimalText (shortest style.tie (fraction + leastSignificand) ((exponent : Int) - 1075))

end Adjudication.Decimal
