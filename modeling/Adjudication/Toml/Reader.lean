import Adjudication.Toml.Moment
import Adjudication.Toml.Node

/-!
# Reading TOML

Reads values, and a text into statements. Of three calls in a row at least one takes a character off the text,
so three times its length is fuel enough; arrays and inline tables nest only to a limited depth.
-/

namespace Adjudication.Toml

def maxDepth : Nat := 79

def inlineTable? (assignments : List (Key × Node)) : Option Node :=
  (Entries.assignAll .inline assignments []).map (.table .inline)

mutual

/-- A value at the front of a text, in which arrays and inline tables may nest `depth` deep. -/
def readValue? : (fuel depth : Nat) → List Char → Option (Node × List Char)
  | 0, _, _ => none
  | fuel + 1, depth, s =>
    match s with
    | '[' :: rest =>
      match depth with
      | 0 => none
      | depth + 1 => (readItems? fuel depth rest).map fun (items, rest) => (.array items, rest)
    | '\x7b' :: rest =>
      match depth with
      | 0 => none
      | depth + 1 => do
        let (assignments, rest) ← readPairs? fuel depth rest
        pure (← inlineTable? assignments, rest)
    | 't' :: rest => (['r', 'u', 'e'].isPrefixOf? rest).map fun rest => (.boolean true, rest)
    | 'f' :: rest => (['a', 'l', 's', 'e'].isPrefixOf? rest).map fun rest => (.boolean false, rest)
    | s =>
      match string? s with
      | some (text, rest) => some (.string (String.ofList text), rest)
      | none =>
        match moment? s with
        | some rest => some (.moment, rest)
        | none => (number? s).map fun (number, rest) => (.number number, rest)

def readItems? : (fuel depth : Nat) → List Char → Option (List Node × List Char)
  | 0, _, _ => none
  | fuel + 1, depth, s =>
    match skipLines false s with
    | ']' :: rest => some ([], rest)
    | s => do
      let (item, s) ← readValue? fuel depth s
      match skipLines false s with
      | ']' :: rest => pure ([item], rest)
      | ',' :: rest =>
        let (items, rest) ← readItems? fuel depth rest
        pure (item :: items, rest)
      | _ => none

def readPairs? : (fuel depth : Nat) → List Char → Option (List (Key × Node) × List Char)
  | 0, _, _ => none
  | fuel + 1, depth, s =>
    match skipBlanks s with
    | '\x7d' :: rest => some ([], rest)
    | s => readPair? fuel depth s

def readPair? : (fuel depth : Nat) → List Char → Option (List (Key × Node) × List Char)
  | 0, _, _ => none
  | fuel + 1, depth, s => do
    let (key, s) ← key? s
    match s with
    | '=' :: s =>
      let (value, s) ← readValue? fuel depth (skipBlanks s)
      match skipBlanks s with
      | '\x7d' :: rest => pure ([(key, value)], rest)
      | ',' :: rest =>
        let (pairs, rest) ← readPair? fuel depth rest
        pure ((key, value) :: pairs, rest)
      | _ => none
    | _ => none

end

def value? (s : List Char) : Option (Node × List Char) := readValue? (3 * s.length + 3) maxDepth s

/-! ### Statements -/

/-- A statement of a document: a header, for one of many tables or for a single one, or an assignment. -/
inductive Statement where
  | header (many : Bool) (key : Key)
  | assignment (key : Key) (value : Node)

def header? (many : Bool) (s : List Char) : Option (Statement × List Char) := do
  let (key, s) ← key? s
  match many, s with
  | true, ']' :: ']' :: rest => pure (.header true key, rest)
  | false, ']' :: rest => pure (.header false key, rest)
  | _, _ => none

def assignment? (s : List Char) : Option (Statement × List Char) := do
  let (key, s) ← key? s
  match s with
  | '=' :: s =>
    let (value, s) ← value? (skipBlanks s)
    pure (.assignment key value, s)
  | _ => none

def statement? : List Char → Option (Statement × List Char)
  | '[' :: '[' :: rest => header? true rest
  | '[' :: rest => header? false rest
  | s => assignment? s

def readStatements? : (fuel : Nat) → List Char → Option (List Statement)
  | 0, _ => none
  | fuel + 1, s =>
    match skipLines false s with
    | [] => some []
    | s => do
      let (statement, s) ← statement? s
      let statements ← readStatements? fuel (← statementEnd? s)
      pure (statement :: statements)

def statements? (s : List Char) : Option (List Statement) :=
  match s with
  | '\ufeff' :: s => readStatements? (s.length + 1) s
  | s => readStatements? (s.length + 1) s

end Adjudication.Toml
