/-!
# TOML dates and times

A date, a time of day, or both, with an offset if there are both. Nothing asks which moment is meant, so the
readers return only what is left of the text.
-/

namespace Adjudication.Toml

def fixed? : (digits : Nat) → List Char → (value : Nat) → Option (Nat × List Char)
  | 0, s, value => some (value, s)
  | digits + 1, c :: s, value =>
    if c.isDigit then fixed? digits s (10 * value + (c.toNat - '0'.toNat)) else none
  | _ + 1, [], _ => none

def pair? (low high : Nat) (s : List Char) : Option (Nat × List Char) := do
  let (n, s) ← fixed? 2 s 0
  if low ≤ n && n ≤ high then some (n, s) else none

def mark? (mark : Char) : List Char → Option (List Char)
  | c :: s => if c = mark then some s else none
  | [] => none

def isLeapYear (year : Nat) : Bool := year % 4 = 0 && (year % 100 ≠ 0 || year % 400 = 0)

def daysInMonth (year month : Nat) : Nat :=
  if month = 2 then if isLeapYear year then 29 else 28
  else if month = 4 || month = 6 || month = 9 || month = 11 then 30
  else 31

def date? (s : List Char) : Option (List Char) := do
  let (year, s) ← fixed? 4 s 0
  let (month, s) ← pair? 1 12 (← mark? '-' s)
  let (_, s) ← pair? 1 (daysInMonth year month) (← mark? '-' s)
  pure s

/-- Drops the digits of a fraction of a second, if there are any. -/
def skipFraction : List Char → List Char
  | '.' :: c :: s => if c.isDigit then s.dropWhile Char.isDigit else '.' :: c :: s
  | s => s

def time? (s : List Char) : Option (List Char) := do
  let (_, s) ← pair? 0 23 s
  let (_, s) ← pair? 0 59 (← mark? ':' s)
  let (_, s) ← pair? 0 60 (← mark? ':' s)
  pure (skipFraction s)

def offset? : List Char → Option (List Char)
  | [] => none
  | c :: s =>
    if c = 'Z' || c = 'z' then some s
    else if c = '+' || c = '-' then do
      let (_, s) ← pair? 0 23 s
      let (_, s) ← pair? 0 59 (← mark? ':' s)
      pure s
    else none

/-- The time after a date, with its offset if there is one. -/
def clock? : List Char → Option (List Char)
  | [] => none
  | c :: s =>
    if c = 'T' || c = 't' || c = ' ' then (time? s).map fun s => (offset? s).getD s
    else none

def moment? (s : List Char) : Option (List Char) :=
  match date? s with
  | some s => some ((clock? s).getD s)
  | none => time? s

end Adjudication.Toml
