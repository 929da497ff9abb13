import Adjudication.Pattern.Basic
import Adjudication.Text.Digits

/-!
# Single characters of patterns

What a character or an escape stands for, alone or in a bracket. Nothing is known of the classes and the cases of
characters beyond ASCII, so what would ask for them is not admitted; nor is what could match part of a character.
-/

namespace Adjudication.Pattern

inductive Atom where
  | literal (c : Char)
  | byte (c : Char)
  | anyChar
  /-- The start or the end of a line or of the text. -/
  | edge
  /-- The start or the end of a word, or their absence. -/
  | wordEdge
  /-- The digits, the white space, the characters of words, or all other characters. -/
  | kind (negated : Bool)
  deriving DecidableEq, Repr

namespace Atom

def char? : Atom → Option Char
  | .literal c => some c
  | .byte c => some c
  | _ => none

def isAdmitted (mode : Mode) : Atom → Bool
  | .literal _ => !(mode.unicode && mode.insensitive)
  | .byte c => if mode.unicode then !mode.insensitive else c.toNat < 0x80
  | .anyChar => mode.unicode
  | .kind negated => !mode.unicode && !negated
  | .edge | .wordEdge => true

def isAdmittedInBrackets (mode : Mode) : Atom → Bool
  | .literal c | .byte c => if mode.unicode then !mode.insensitive else c.toNat < 0x80
  | .kind negated => !mode.unicode && !negated
  | .anyChar | .edge | .wordEdge => false

def shape (mode : Mode) : Atom → Shape
  | .wordEdge => ⟨0, mode.unicode⟩
  | _ => .leaf

/-- What a character stands for after a backslash, if it is an escape of its own. -/
def ofEscaped? : Char → Option Atom
  | 'a' => some (.literal '\x07')
  | 't' => some (.literal '\t')
  | 'n' => some (.literal '\n')
  | 'v' => some (.literal '\x0b')
  | 'f' => some (.literal '\x0c')
  | 'r' => some (.literal '\r')
  | 'A' | 'z' => some .edge
  | 'b' | 'B' | '<' | '>' => some .wordEdge
  | 'd' | 's' | 'w' => some (.kind false)
  | 'D' | 'S' | 'W' => some (.kind true)
  | c => if c.toNat < 0x80 && !c.isAlphanum then some (.literal c) else none

end Atom

def hexDigits? (mode : Mode) : (count value : Nat) → List Char → Option (Nat × List Char)
  | 0, value, s => some (value, s)
  | count + 1, value, s =>
    match mode.skip s with
    | [] => none
    | c :: rest => do hexDigits? mode count (16 * value + (← Text.digitValue? c)) rest

/-- Takes a character given by some digits to base sixteen off the front of a text. -/
def hexChar? (mode : Mode) (count : Nat) (s : List Char) : Option (Char × List Char) := do
  let (value, rest) ← hexDigits? mode count 0 s
  if value.isValidChar then some (Char.ofNat value, rest) else none

def escape? (mode : Mode) : List Char → Option (Atom × List Char)
  | [] => none
  | 'x' :: rest => (hexChar? mode 2 rest).map fun (c, rest) => (.byte c, rest)
  | 'u' :: rest => (hexChar? mode 4 rest).map fun (c, rest) => (.literal c, rest)
  | 'U' :: rest => (hexChar? mode 8 rest).map fun (c, rest) => (.literal c, rest)
  | c :: rest => (Atom.ofEscaped? c).map (·, rest)

def bracketAtom? (mode : Mode) : List Char → Option (Atom × List Char)
  | [] => none
  | '\\' :: rest => escape? mode rest
  | c :: rest => some (.literal c, rest)

def atom? (mode : Mode) : List Char → Option (Atom × List Char)
  | '.' :: rest => some (.anyChar, rest)
  | '^' :: rest | '$' :: rest => some (.edge, rest)
  | s => bracketAtom? mode s

end Adjudication.Pattern
