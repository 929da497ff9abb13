import Adjudication.Text.Space

/-!
# Patterns

Regular expressions for the values of fields. No value is ever compared with one, so of a pattern only its shape
is kept: how deep its parts are nested, and whether it has something in it that values cannot be searched for.
-/

namespace Adjudication.Pattern

inductive PatternError where
  | malformed
  /-- Where a word begins or ends is asked in terms of all letters, not of those of ASCII alone. -/
  | unicodeBoundary
  deriving DecidableEq, Repr

def PatternError.message : PatternError → String
  | .malformed => "error building NFA"
  | .unicodeBoundary =>
    "unsupported regex feature for DFAs: cannot build DFAs for regexes with Unicode word boundaries; switch to " ++
      "ASCII word boundaries, or heuristically enable Unicode word boundaries or use a different regex engine"

/-! ### Shapes -/

structure Shape where
  depth : Nat
  hasUnicodeBoundary : Bool
  deriving DecidableEq, Repr

namespace Shape

def leaf : Shape := ⟨0, false⟩

def nest (shape : Shape) : Shape := { shape with depth := shape.depth + 1 }

def beside (a b : Shape) : Shape := ⟨max a.depth b.depth, a.hasUnicodeBoundary || b.hasUnicodeBoundary⟩

/-- Parts side by side. They make a level of their own unless there is at most one of them. -/
def bundle : List Shape → Shape
  | [] => leaf
  | [shape] => shape
  | shapes => (shapes.foldl beside leaf).nest

def depthLimit : Nat := 250

def check (shape : Shape) : Except PatternError Unit :=
  if depthLimit < shape.depth then .error .malformed
  else if shape.hasUnicodeBoundary then .error .unicodeBoundary
  else .ok ()

end Shape

/-! ### Modes -/

structure Mode where
  unicode : Bool := true
  insensitive : Bool := false
  verbose : Bool := false
  deriving DecidableEq, Repr

/-- Drops white space and comments at the front of a text. A comment starts with a number sign and ends with its
line. -/
def skipBlanks : (inComment : Bool) → List Char → List Char
  | _, [] => []
  | true, c :: rest => skipBlanks (c ≠ '\n') rest
  | false, c :: rest =>
    if c = '#' then skipBlanks true rest
    else if Text.isSpace c then skipBlanks false rest
    else c :: rest

namespace Mode

/-- Drops what does not count at the front of a text. -/
def skip (mode : Mode) (s : List Char) : List Char := if mode.verbose then skipBlanks false s else s

/-- The character to come; white space does not count in a verbose pattern, nor does a number sign after it. -/
def peek (mode : Mode) (s : List Char) : Option Char :=
  if mode.verbose then
    match s.dropWhile Text.isSpace with
    | '#' :: rest => (rest.dropWhile Text.isSpace).head?
    | rest => rest.head?
  else s.head?

end Mode

end Adjudication.Pattern
