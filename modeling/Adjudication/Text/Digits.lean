/-!
# Digits and signs

Numbers to a base of at most sixteen, the sign before a number, and what counts as a number.
-/

namespace Adjudication.Text

/-- The value of a digit; beyond nine the digits are letters of either case. -/
def digitValue? (c : Char) : Option Nat :=
  if c.isDigit then some (c.toNat - '0'.toNat)
  else if 'a' ≤ c && c ≤ 'f' then some (c.toNat - 'a'.toNat + 10)
  else if 'A' ≤ c && c ≤ 'F' then some (c.toNat - 'A'.toNat + 10)
  else none

def isDigitOf (base : Nat) (c : Char) : Bool := (digitValue? c).any (· < base)

def digitsValue (base : Nat) (digits : List Char) : Nat :=
  digits.foldl (fun n c => base * n + (digitValue? c).getD 0) 0

def decimalValue (digits : List Char) : Nat := Nat.ofDigitChars 10 digits 0

/-- Takes a sign off the front of a text, if there is one, and says whether it is negative. -/
def spanSign : List Char → Bool × List Char
  | '+' :: rest => (false, rest)
  | '-' :: rest => (true, rest)
  | s => (false, s)

def isExponent : List Char → Bool
  | [] => true
  | c :: rest =>
    let digits := (spanSign rest).2
    (c = 'e' || c = 'E') && !digits.isEmpty && digits.all Char.isDigit

/-- Whether a text is a number without a sign: digits, a point before, between or after them, and an exponent. -/
def isUnsignedNumber (s : List Char) : Bool :=
  let whole := s.takeWhile Char.isDigit
  match s.drop whole.length with
  | '.' :: rest =>
    let fraction := rest.takeWhile Char.isDigit
    !(whole.isEmpty && fraction.isEmpty) && isExponent (rest.drop fraction.length)
  | rest => !whole.isEmpty && isExponent rest

/-- Whether a text is a number, infinity, or the name for no number; any of them may have a sign. -/
def isNumber (s : List Char) : Bool :=
  let unsigned := (spanSign s).2
  isUnsignedNumber unsigned ||
    ["inf", "infinity", "nan"].contains (String.ofList (unsigned.map Char.toLower))

end Adjudication.Text
