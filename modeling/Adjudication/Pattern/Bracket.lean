import Adjudication.Pattern.Atom

/-!
# Brackets in patterns

Sets of characters between brackets. A set has characters, ranges, named classes and sets in it, and operators of two
equal signs between them, of which the leftmost is done first.
-/

namespace Adjudication.Pattern

/-- What is read of a set: the operands before the last operator, and the items after it. -/
structure SetDraft where
  left : Option Shape := none
  items : List Shape := []
  deriving Repr

namespace SetDraft

def add (d : SetDraft) (item : Shape) : SetDraft := { d with items := item :: d.items }

/-- Everything up to here as one operand. -/
def operand (d : SetDraft) : Shape :=
  match d.left with
  | none => .bundle d.items
  | some left => .bundle [left, .bundle d.items]

def operate (d : SetDraft) : SetDraft := { left := some d.operand }

end SetDraft

def classNames : List String :=
  ["alnum", "alpha", "ascii", "blank", "cntrl", "digit", "graph", "lower", "print", "punct", "space", "upper",
    "word", "xdigit"]

/-- Takes the rest of a named class off the front of a text, of which the bracket is gone; says whether it is the
complement that is meant. -/
def namedClass? : List Char → Option (Bool × List Char)
  | ':' :: rest =>
    let (negated, rest) := match rest with
      | '^' :: rest => (true, rest)
      | rest => (false, rest)
    let name := rest.takeWhile (· ≠ ':')
    match rest.drop name.length with
    | ':' :: ']' :: rest => if classNames.contains (String.ofList name) then some (negated, rest) else none
    | _ => none
  | _ => none

def isClassAdmitted (mode : Mode) (negated : Bool) : Bool :=
  if mode.unicode then !mode.insensitive else !negated

/-- Takes a character, a kind of characters or a range off the front of a text. A minus sign before the closing
bracket or before another one makes no range. -/
def range? (mode : Mode) (s : List Char) : Option (List Char) := do
  let (first, rest) ← bracketAtom? mode s
  let single (rest : List Char) := if first.isAdmittedInBrackets mode then some rest else none
  match mode.skip rest with
  | '-' :: rest =>
    if mode.peek rest = some ']' || mode.peek rest = some '-' then single ('-' :: rest)
    else
      let (last, rest) ← bracketAtom? mode (mode.skip rest)
      if (← first.char?) ≤ (← last.char?) && first.isAdmittedInBrackets mode && last.isAdmittedInBrackets mode then
        some rest
      else none
  | rest => single rest

def spanDashes (mode : Mode) : (fuel : Nat) → SetDraft → List Char → SetDraft × List Char
  | fuel + 1, d, '-' :: rest => spanDashes mode fuel (d.add .leaf) (mode.skip rest)
  | _, d, s => (d, s)

/-- Takes the front of a set off a text, of which the bracket is gone; says whether it is the complement that is
meant. Minus signs stand for themselves there, or else a closing bracket does. -/
def openSet (mode : Mode) (s : List Char) : Bool × SetDraft × List Char :=
  let s := mode.skip s
  let (negated, s) := match s with
    | '^' :: rest => (true, mode.skip rest)
    | rest => (false, rest)
  match spanDashes mode s.length {} s with
  | (⟨none, []⟩, ']' :: rest) => (negated, { items := [.leaf] }, mode.skip rest)
  | (draft, rest) => (negated, draft, rest)

mutual

def readSet (mode : Mode) : (fuel : Nat) → List Char → Option (Shape × List Char)
  | 0, _ => none
  | fuel + 1, s =>
    let (negated, draft, rest) := openSet mode s
    if negated && !mode.unicode then none
    else if !draft.items.isEmpty && mode.unicode && mode.insensitive then none
    else (readItems mode fuel draft rest).map fun (shape, rest) => (shape.nest, rest)

def readItems (mode : Mode) : (fuel : Nat) → SetDraft → List Char → Option (Shape × List Char)
  | 0, _, _ => none
  | fuel + 1, draft, s =>
    match mode.skip s with
    | [] => none
    | ']' :: rest => some (draft.operand, rest)
    | '[' :: rest =>
      match namedClass? rest with
      | some (negated, rest) =>
        if isClassAdmitted mode negated then readItems mode fuel (draft.add .leaf) rest else none
      | none => do
        let (shape, rest) ← readSet mode fuel rest
        readItems mode fuel (draft.add shape) rest
    | '&' :: '&' :: rest | '-' :: '-' :: rest | '~' :: '~' :: rest => readItems mode fuel draft.operate rest
    | rest => do readItems mode fuel (draft.add .leaf) (← range? mode rest)

end

/-- Takes a set off the front of a text, of which the bracket is gone. Of two calls in a row at least one takes a
character off the text, so twice its length is fuel enough. -/
def set? (mode : Mode) (s : List Char) : Option (Shape × List Char) := readSet mode (2 * s.length + 2) s

end Adjudication.Pattern
