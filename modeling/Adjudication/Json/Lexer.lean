import Adjudication.Json.Number

/-!
# JSON tokens

Blanks, words, numbers and strings at the front of a text. Each reader returns what is left of the text.
-/

namespace Adjudication.Json

def isBlank (c : Char) : Bool := c = ' ' || c = '\n' || c = '\t' || c = '\r'

def skipBlanks (s : List Char) : List Char := s.dropWhile isBlank

/-! ### Numbers -/

def spanDigits (s : List Char) : List Char × List Char := s.span Char.isDigit

/-- Digits, at least one. -/
def digits? (s : List Char) : Option (List Char × List Char) :=
  match spanDigits s with
  | ([], _) => none
  | (digits, rest) => some (digits, rest)

/-- The whole part of a number, which has no leading zero unless it is zero. -/
def whole? (s : List Char) : Option (List Char × List Char) :=
  match digits? s with
  | some ('0' :: _ :: _, _) => none
  | found => found

/-- The fraction of a number, if there is one. -/
def fraction? : List Char → Option (Option (List Char) × List Char)
  | '.' :: s => (digits? s).map fun (digits, rest) => (some digits, rest)
  | s => some (none, s)

/-- The exponent of a number, if there is one. -/
def exponent? (s : List Char) : Option (Option (Bool × List Char) × List Char) :=
  match s with
  | 'e' :: s | 'E' :: s =>
    let (negative, s) := Text.spanSign s
    (digits? s).map fun (digits, rest) => (some (negative, digits), rest)
  | _ => some (none, s)

def number? (negative : Bool) (s : List Char) : Option (Number × List Char) := do
  let (whole, s) ← whole? s
  let (fraction, s) ← fraction? s
  let (exponent, s) ← exponent? s
  pure (⟨negative, whole, fraction, exponent⟩, s)

/-! ### Strings -/

/-- A part of a string: a character, or a code unit written as an escape. -/
inductive Piece where
  | char (c : Char)
  | unit (code : Nat)
  deriving DecidableEq, Repr

def unit? (a b c d : Char) : Option Nat :=
  if [a, b, c, d].all (Text.isDigitOf 16) then some (Text.digitsValue 16 [a, b, c, d]) else none

def escaped? : Char → Option Char
  | '"' => some '"'
  | '\\' => some '\\'
  | '/' => some '/'
  | 'b' => some '\x08'
  | 'f' => some '\x0c'
  | 'n' => some '\n'
  | 'r' => some '\r'
  | 't' => some '\t'
  | _ => none

/-- The rest of a string after its opening quote, up to the closing one. -/
def pieces? : List Char → Option (List Piece × List Char)
  | [] => none
  | '"' :: rest => some ([], rest)
  | '\\' :: 'u' :: a :: b :: c :: d :: rest => do
    let code ← unit? a b c d
    let (pieces, rest) ← pieces? rest
    pure (.unit code :: pieces, rest)
  | '\\' :: e :: rest => do
    let c ← escaped? e
    let (pieces, rest) ← pieces? rest
    pure (.char c :: pieces, rest)
  | c :: rest =>
    if c.toNat < 0x20 || c = '\\' then none
    else do
      let (pieces, rest) ← pieces? rest
      pure (.char c :: pieces, rest)

def isHighSurrogate (code : Nat) : Bool := 0xD800 ≤ code && code < 0xDC00

def isLowSurrogate (code : Nat) : Bool := 0xDC00 ≤ code && code < 0xE000

/-- The text of a string; escaped surrogates must come in pairs. -/
def text? : List Piece → Option (List Char)
  | [] => some []
  | .char c :: rest => (text? rest).map (c :: ·)
  | .unit high :: .unit low :: rest =>
    if isHighSurrogate high then
      if isLowSurrogate low then
        (text? rest).map (Char.ofNat (0x10000 + (high - 0xD800) * 0x400 + (low - 0xDC00)) :: ·)
      else none
    else if isLowSurrogate high then none
    else (text? (.unit low :: rest)).map (Char.ofNat high :: ·)
  | .unit code :: rest =>
    if isHighSurrogate code || isLowSurrogate code then none
    else (text? rest).map (Char.ofNat code :: ·)

/-- A string after its opening quote: its text, if it is one. -/
def string? (s : List Char) : Option (Option String × List Char) :=
  (pieces? s).map fun (pieces, rest) => ((text? pieces).map String.ofList, rest)

end Adjudication.Json
