import Adjudication.Log.Record
import Adjudication.Pattern.Reader
import Adjudication.Text.Alphanumeric
import Adjudication.Text.Digits
import Adjudication.Text.Space

/-!
# Log filters

Which records of a log are shown. A filter is written as directives between commas: a level, a target, a target
with a level such as `store=debug`, and any of them for the records of a span or with certain fields, such as
`store[query{kind}]=debug`. Of the directives that a record falls under, the most specific one decides.

The value of a field may be asked for too, as in `[{kind=a|b}]`: it is a number or else a pattern.

Nothing here runs in a span and no record of a span is ever shown, so a directive for a span or for the value of a
field has no effect, other than that it must be well-formed.
-/

namespace Adjudication

inductive FilterError where
  | badDirective
  | badLevel
  | badPattern (error : Pattern.PatternError)
  deriving DecidableEq, Repr

def FilterError.message : FilterError → String
  | .badDirective => "invalid filter directive"
  | .badLevel =>
    "error parsing level filter: expected one of \"off\", \"error\", \"warn\", \"info\", \"debug\", " ++
      "\"trace\", or a number 0-5"
  | .badPattern e => "invalid field filter: " ++ e.message

/-- The least urgent level that is shown, if any is. -/
abbrev LevelCeiling := Option Level

namespace LevelCeiling

def shows (ceiling : LevelCeiling) (level : Level) : Bool :=
  match ceiling with
  | none => false
  | some least => level.rank ≤ least.rank

/-- The ceilings by their names; a name may be written in letters of either case. -/
def names : List (String × LevelCeiling) := [
  ("off", none), ("error", some .error), ("warn", some .warn), ("info", some .info), ("debug", some .debug),
  ("trace", some .trace)]

def number? (s : List Char) : Option Nat :=
  let digits := match s with
    | '+' :: rest => rest
    | _ => s
  if digits.isEmpty || !digits.all Char.isDigit then none
  else some (Text.decimalValue digits)

/-- The ceiling of a name or of a number up to five. -/
def ofChars? (s : List Char) : Option LevelCeiling :=
  match number? s with
  | some n => (names[n]?).map Prod.snd
  | none => names.lookup (String.ofList (s.map Char.toLower))

end LevelCeiling

/-- What a directive says: which records it is for, and up to which level they are shown. -/
structure Directive where
  target : Option String := none
  span : Option String := none
  /-- The name of a field that records must have, and whether it must have a certain value. -/
  field : Option (String × Bool) := none
  ceiling : LevelCeiling := some .trace
  deriving DecidableEq, Repr

namespace Directive

/-- Where one of the given characters is first found from a position on, and which it is. -/
def find? (marks : List Char) (text : List Char) (start : Nat) : Option (Nat × Char) :=
  match (text.drop start).findIdx? marks.contains with
  | none => none
  | some i => (text[start + i]?).map fun c => (start + i, c)

def between (text : List Char) (start stop : Nat) : List Char := (text.take stop).drop start

/-- A directive that says its level from a position on; without a level it is for all of them. -/
def withLevelAt (raw : List Char) (start : Nat) (d : Directive) : Except FilterError Directive :=
  match raw.drop start with
  | [] => .ok { d with ceiling := some .trace }
  | level =>
    match LevelCeiling.ofChars? level with
    | some ceiling => .ok { d with ceiling := ceiling }
    | none => .error .badLevel

def afterBracket (raw text : List Char) (start : Nat) (d : Directive) : Except FilterError Directive :=
  match text[start]? with
  | none => .ok d
  | some c => if c = '=' then withLevelAt raw (start + 1) d else .error .badDirective

/-- The name of a field up to an equals sign, and whether there is one; the value that is asked for goes up to the
next one. -/
def fieldOf (s : List Char) : Except FilterError (String × Bool) :=
  let name := s.takeWhile (· ≠ '=')
  match s.drop name.length with
  | [] => .ok (String.ofList name, false)
  | _ :: rest =>
    let value := rest.takeWhile (· ≠ '=')
    if Text.isNumber value then .ok (String.ofList name, true)
    else
      match Pattern.check value with
      | .ok () => .ok (String.ofList name, true)
      | .error e => .error (.badPattern e)

def inBrace (raw text : List Char) (start : Nat) (d : Directive) : Except FilterError Directive :=
  match find? ['\x7d'] text start with
  | none => .error .badDirective
  | some (stop, _) =>
    match between raw start stop with
    | [] => .error .badDirective
    | field => do
      let field ← fieldOf field
      if text[stop + 1]? = some ']' then afterBracket raw text (stop + 2) { d with field := some field }
      else .error .badDirective

def inBracket (raw text : List Char) (start : Nat) (d : Directive) : Except FilterError Directive :=
  match find? [']', '\x7b'] text start with
  | none => .error .badDirective
  | some (stop, c) =>
    let name := between raw start stop
    if c = ']' then afterBracket raw text (stop + 1) { d with span := some (String.ofList name) }
    else inBrace raw text (stop + 1) (if name.isEmpty then d else { d with span := some (String.ofList name) })

/-- A lone word is a level, or else a target. -/
def ofWord (raw : List Char) : Directive :=
  match LevelCeiling.ofChars? raw with
  | some ceiling => { ceiling := ceiling }
  | none => { target := some (String.ofList raw) }

/-- Reads a directive. White space at its ends does not count in telling its parts from each other, but the parts
are then taken from the text with it, as many characters from its start. -/
def parse (part : String) : Except FilterError Directive :=
  let raw := part.toList
  let text := Text.trim raw
  match text with
  | [] => .error .badDirective
  | c :: _ =>
    if c = '[' then inBracket raw text 1 {}
    else if !(Text.isAlphanumeric c || c = '-' || c = ':' || c = '_') then .error .badDirective
    else
      match find? ['=', '['] text 1 with
      | none => .ok (ofWord raw)
      | some (i, mark) =>
        let d : Directive := { target := some (String.ofList (between raw 0 i)) }
        if mark = '=' then withLevelAt raw (i + 1) d else inBracket raw text (i + 1) d

def appliesTo (d : Directive) (record : LogRecord) : Bool :=
  d.span.isNone &&
    (match d.target with
    | none => true
    | some target => target.toList.isPrefixOf record.target.toList) &&
    (match d.field with
    | none => true
    | some (name, valued) => !valued && (name = "message" || record.fields.any (·.1 == name)))

/-- Whether the second of two directives goes before the first one: a longer target does, then a field, then a
greater target or field, and one for the same records as the first. -/
def isOverriddenBy (d e : Directive) : Bool :=
  let key (d : Directive) := (d.target.map String.utf8ByteSize, d.field.isSome, d.target, d.field.map Prod.fst)
  let (dLength, dField, dTarget, dName) := key d
  let (eLength, eField, eTarget, eName) := key e
  ((compare dLength eLength).then <| (compare dField eField).then <|
    (compare dTarget eTarget).then (compare dName eName)).isLE

end Directive

structure LogFilter where
  directives : List Directive

namespace LogFilter

def parse (text : String) : Except FilterError LogFilter := do
  let parts := (text.splitOn ",").filter (· ≠ "")
  return ⟨← parts.mapM Directive.parse⟩

def decisive? (filter : LogFilter) (record : LogRecord) : Option Directive :=
  (filter.directives.filter (·.appliesTo record)).foldl (fun best d =>
    match best with
    | none => some d
    | some b => some (if b.isOverriddenBy d then d else b)) none

def shows (filter : LogFilter) (record : LogRecord) : Bool :=
  match filter.decisive? record with
  | none => false
  | some d => LevelCeiling.shows d.ceiling record.level

/-- The filter to use: the one from the environment if it is well-formed, otherwise the given one, otherwise one
that shows records up to the level `info`. -/
def choose (fromEnvironment given : Option String) : Except FilterError LogFilter :=
  match fromEnvironment.map parse with
  | some (.ok filter) => .ok filter
  | _ => parse (given.getD "info")

end LogFilter

end Adjudication
