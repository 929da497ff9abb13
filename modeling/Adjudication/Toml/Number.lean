import Adjudication.Bounds
import Adjudication.Decimal.Nearest
import Adjudication.Text.Digits

/-!
# TOML numbers

Integers of sixty-four bits in four bases, and floating-point numbers. Single underscores may stand between
digits.
-/

namespace Adjudication.Toml

inductive Number where
  | integer (value : Int)
  | float (value : Float)

def moreDigits (isDigit : Char → Bool) : List Char → List Char × List Char
  | [] => ([], [])
  | '_' :: d :: rest =>
    if isDigit d then
      let (digits, rest) := moreDigits isDigit rest
      (d :: digits, rest)
    else ([], '_' :: d :: rest)
  | d :: rest =>
    if isDigit d then
      let (digits, rest) := moreDigits isDigit rest
      (d :: digits, rest)
    else ([], d :: rest)

def digits? (isDigit : Char → Bool) : List Char → Option (List Char × List Char)
  | d :: rest =>
    if isDigit d then
      let (digits, rest) := moreDigits isDigit rest
      some (d :: digits, rest)
    else none
  | [] => none

def whole? : List Char → Option (List Char × List Char)
  | '0' :: rest => some (['0'], rest)
  | s => digits? Char.isDigit s

/-! ### Floating-point numbers -/

/-- The digits of a fraction, if there is one. -/
def fraction? : List Char → Option (List Char × List Char)
  | '.' :: rest => digits? Char.isDigit rest
  | _ => none

/-- An exponent, if there is one. -/
def exponent? : List Char → Option (Int × List Char)
  | c :: rest =>
    if c = 'e' || c = 'E' then
      let (negative, rest) := Text.spanSign rest
      (digits? Char.isDigit rest).map fun (digits, rest) =>
        let value : Int := Text.decimalValue digits
        (if negative then -value else value, rest)
    else none
  | [] => none

def signed (negative : Bool) (x : Float) : Float := if negative then -x else x

/-- A floating-point number in digits: with a fraction, an exponent or both. Positive numbers must be finite. -/
def decimal? (s : List Char) : Option (Float × List Char) := do
  let (negative, s) := Text.spanSign s
  let (whole, s) ← whole? s
  let found := fraction? s
  let (fraction, s) := found.getD ([], s)
  let power := exponent? s
  let (shift, s) := power.getD (0, s)
  if found.isNone && power.isNone then none
  else
    let d : Decimal.Scaled := ⟨Text.decimalValue (whole ++ fraction), shift - fraction.length⟩
    let x := signed negative d.nearest
    if x.isInf && !negative then none else some (x, s)

def special? (s : List Char) : Option (Float × List Char) :=
  match Text.spanSign s with
  | (negative, 'i' :: 'n' :: 'f' :: rest) => some (signed negative (1 / 0), rest)
  | (_, 'n' :: 'a' :: 'n' :: rest) => some (0 / 0, rest)
  | _ => none

/-! ### Integers -/

/-- The integer of a sign and a size, if it fits in sixty-four bits. -/
def fitting? (negative : Bool) (size : Nat) : Option Int :=
  if negative then if size ≤ int64Bound then some (-size) else none
  else if size < int64Bound then some size else none

def integerOf? (base : Nat) (s : List Char) : Option (Int × List Char) := do
  let (digits, s) ← digits? (Text.isDigitOf base) s
  pure (← fitting? false (Text.digitsValue base digits), s)

def integer? : List Char → Option (Int × List Char)
  | '0' :: 'x' :: rest => integerOf? 16 rest
  | '0' :: 'o' :: rest => integerOf? 8 rest
  | '0' :: 'b' :: rest => integerOf? 2 rest
  | s => do
    let (negative, s) := Text.spanSign s
    let (whole, s) ← whole? s
    pure (← fitting? negative (Text.decimalValue whole), s)

def number? (s : List Char) : Option (Number × List Char) :=
  match (decimal? s).or (special? s) with
  | some (x, rest) => some (.float x, rest)
  | none => (integer? s).map fun (k, rest) => (.integer k, rest)

end Adjudication.Toml
