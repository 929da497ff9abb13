import Adjudication.Bounds
import Adjudication.Text.Digits

/-!
# Arguments of the command line

The words of a command line, read from left to right. A word that starts with a minus sign is an option, unless it
is the sign alone or comes after the word `--`. The value of an option is the rest of its word or the next word,
which must not be an option. Nothing may be given twice, and of the other words there is exactly one: the file of
declarations.

Asking for help or for the version counts once everything before it is right, whatever comes after it.
-/

namespace Adjudication.CommandLine

structure Arguments where
  declarations : String
  config : Option String
  maxAttempts : Option UInt32
  log : Option String
  json : Bool
  deriving DecidableEq, Repr

inductive Request where
  | help
  | version
  | selection (arguments : Arguments)
  deriving DecidableEq, Repr

/-- The arguments that are known so far. -/
structure Draft where
  declarations : Option String := none
  config : Option String := none
  maxAttempts : Option UInt32 := none
  log : Option String := none
  json : Bool := false

inductive Setting where
  | config
  | maxAttempts
  | log

def Setting.ofName? (name : List Char) : Option Setting :=
  [("config", Setting.config), ("max-attempts", .maxAttempts), ("log", .log)].lookup (String.ofList name)

/-- An integer with an optional sign, if it is in the range of thirty-two bits without a sign. -/
def uint32? (text : String) : Option UInt32 :=
  let (negative, digits) := Text.spanSign text.toList
  if digits.isEmpty || !digits.all Char.isDigit then none
  else
    let size : Int := Text.decimalValue digits
    uint32OfInt? (if negative then -size else size)

/-- A path, which is never empty. -/
def path? (text : String) : Option String := if text = "" then none else some text

namespace Draft

/-- Fills what is still open; `none` if it is not. -/
def once {α : Type} (present : Option α) (value : Option α) : Option (Option α) :=
  match present, value with
  | none, some a => some (some a)
  | _, _ => none

def give (d : Draft) (setting : Setting) (value : String) : Option Draft :=
  match setting with
  | .config => return { d with config := ← once d.config (path? value) }
  | .maxAttempts => return { d with maxAttempts := ← once d.maxAttempts (uint32? value) }
  | .log => return { d with log := ← once d.log (some value) }

def giveFile (d : Draft) (path : String) : Option Draft :=
  return { d with declarations := ← once d.declarations (path? path) }

def giveJson (d : Draft) : Option Draft := if d.json then none else some { d with json := true }

/-- The request at the end of the command line. The path of the configuration may then come from the environment. -/
def finish (d : Draft) (configVariable : Option String) : Option Request := do
  let config ← match d.config, configVariable with
    | some path, _ => pure (some path)
    | none, some path => (path? path).map some
    | none, none => pure none
  return .selection ⟨← d.declarations, config, d.maxAttempts, d.log, d.json⟩

def giveFiles (d : Draft) (words : List String) : Option Draft := words.foldlM giveFile d

end Draft

inductive Word where
  | plain
  /-- The word after which no word is an option. -/
  | escape
  | help
  | version
  | json
  | option (setting : Setting) (value : Option String)
  | unknown

def Word.ofLong (s : List Char) : Word :=
  let name := s.takeWhile (· ≠ '=')
  match Setting.ofName? name, s.drop name.length with
  | some setting, [] => .option setting none
  | some setting, _ :: value => .option setting (some (String.ofList value))
  | none, [] =>
    if name = "json".toList then .json
    else if name = "help".toList then .help
    else if name = "version".toList then .version
    else .unknown
  | none, _ :: _ => .unknown

/-- A short option, without its minus sign. What follows one that takes no value is never looked at. -/
def Word.ofShort : List Char → Word
  | 'h' :: _ => .help
  | 'V' :: _ => .version
  | 'c' :: '=' :: value => .option .config (some (String.ofList value))
  | ['c'] => .option .config none
  | 'c' :: value => .option .config (some (String.ofList value))
  | _ => .unknown

def Word.ofString (word : String) : Word :=
  match word.toList with
  | ['-', '-'] => .escape
  | '-' :: '-' :: s => .ofLong s
  | ['-'] => .plain
  | '-' :: s => .ofShort s
  | _ => .plain

def Word.isPlain : Word → Bool
  | .plain => true
  | _ => false

/-- Reads the words of a command line; `none` if it is misused. -/
def request? (configVariable : Option String) : Draft → List String → Option Request
  | d, [] => d.finish configVariable
  | d, word :: words =>
    match Word.ofString word with
    | .plain => do request? configVariable (← d.giveFile word) words
    | .escape => do (← d.giveFiles words).finish configVariable
    | .help => some .help
    | .version => some .version
    | .json => do request? configVariable (← d.giveJson) words
    | .option setting (some value) => do request? configVariable (← d.give setting value) words
    | .option setting none =>
      match words with
      | [] => none
      | value :: words =>
        if (Word.ofString value).isPlain then do request? configVariable (← d.give setting value) words
        else none
    | .unknown => none

/-- What a command line asks for; `none` if it is misused. -/
def Request.ofWords? (configVariable : Option String) (words : List String) : Option Request :=
  request? configVariable {} words

end Adjudication.CommandLine
