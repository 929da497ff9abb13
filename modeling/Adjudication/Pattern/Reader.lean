import Adjudication.Pattern.Bracket
import Adjudication.Pattern.Group

/-!
# Reading patterns

A pattern has branches of items one after another; a group has a pattern in it. An item may be repeated, and a
repetition of it again; nothing can be repeated where there is no item before.
-/

namespace Adjudication.Pattern

/-- What is read of a branch, item by item. Flags are items that cannot be repeated. -/
structure Item where
  shape : Shape
  isRepeatable : Bool := true
  deriving Repr

/-- What is read of a group: the branches before the last one, and the items of that one, the last item first. -/
structure Draft where
  branches : List Shape := []
  items : List Item := []
  deriving Repr

namespace Draft

def add (d : Draft) (item : Item) : Draft := { d with items := item :: d.items }

def branch (d : Draft) : Draft := { branches := .bundle (d.items.map Item.shape) :: d.branches }

def repeatLast? (d : Draft) : Option Draft :=
  match d.items with
  | ⟨shape, true⟩ :: items => some { d with items := ⟨shape.nest, true⟩ :: items }
  | _ => none

def shape (d : Draft) : Shape := .bundle d.branch.branches

end Draft

/-- What is left of a text, how it is read, and which names groups have so far. -/
structure Input where
  rest : List Char
  mode : Mode := {}
  names : List (List Char) := []
  deriving Repr

namespace Input

/-- Takes a name for a group; no two groups have the same one. -/
def name? (input : Input) : Option (List Char) → Option Input
  | none => some input
  | some name => if input.names.contains name then none else some { input with names := name :: input.names }

/-- Takes a repetition off the front of a text, of which the first character is gone. A question mark behind it
belongs to it. -/
def skipLazy : List Char → List Char
  | '?' :: rest => rest
  | rest => rest

def read : (fuel : Nat) → Input → Draft → Option (Shape × Input)
  | 0, _, _ => none
  | fuel + 1, input, draft =>
    match input.mode.skip input.rest with
    | [] => some (draft.shape, { input with rest := [] })
    | ')' :: rest => some (draft.shape, { input with rest := ')' :: rest })
    | '|' :: rest => read fuel { input with rest } draft.branch
    | '(' :: rest => do
      match ← opening? input.mode rest with
      | (.flags mode, rest) => read fuel { input with rest, mode } (draft.add ⟨.leaf, false⟩)
      | (.group mode name, rest) =>
        let (shape, inner) ← read fuel { ← input.name? name with rest, mode } {}
        match inner.rest with
        | ')' :: rest => read fuel { inner with rest, mode := input.mode } (draft.add { shape := shape.nest })
        | _ => none
    | '[' :: rest => do
      let (shape, rest) ← set? input.mode rest
      read fuel { input with rest } (draft.add { shape })
    | '*' :: rest | '+' :: rest | '?' :: rest => do
      read fuel { input with rest := skipLazy rest } (← draft.repeatLast?)
    | '\x7b' :: _ => none
    | rest => do
      let (atom, rest) ← atom? input.mode rest
      if atom.isAdmitted input.mode then
        read fuel { input with rest } (draft.add { shape := atom.shape input.mode })
      else none

end Input

/-- The shape of a whole text. Each call takes a character off it. -/
def shape? (s : List Char) : Option Shape :=
  match Input.read (s.length + 1) { rest := s } {} with
  | some (shape, { rest := [], .. }) => some shape
  | _ => none

/-- Whether a text can be used as a pattern. There is no closing brace in it, so nothing can be counted or named
between braces. -/
def check (s : List Char) : Except PatternError Unit :=
  match shape? s with
  | none => .error .malformed
  | some shape => shape.check

end Adjudication.Pattern
