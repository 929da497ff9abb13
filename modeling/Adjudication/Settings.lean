import Adjudication.Declaration.Codec
import Adjudication.File
import Adjudication.Stored
import Adjudication.Toml.Decode

/-!
# Settings

What is read from files: the configuration of the evaluator, from a TOML document, and the declarations, from a
JSON text.
-/

namespace Adjudication

inductive Subject where
  | config
  | declarations
  deriving DecidableEq, Repr

inductive LoadError where
  | unreadable (path : String) (failure : ReadFailure)
  | unusable (path : String) (subject : Subject) (error : DecodeError)

def Subject.name : Subject → String
  | .config => "toml"
  | .declarations => "declarations"

/-- What an error says, up to the words of the reader that found it. -/
def LoadError.headline : LoadError → String
  | .unreadable path failure => "failed to read " ++ path ++ ": " ++ failure.message
  | .unusable path subject _ => "failed to parse " ++ subject.name ++ " at " ++ path

/-- How floating-point numbers are written where the data of a file is found to be wrong. -/
def Subject.floatStyle : Subject → Decimal.FloatStyle
  | .config => Toml.floatStyle
  | .declarations => Json.floatStyle

/-- How the readers of the two formats word what is wrong with the text at a path. They give the message for a mismatch;
the place they name with it, and what they say of a malformed text, are their own. -/
structure Wording where
  text : Subject → String → DecodeError → String
  gives_message : ∀ subject path m,
    (m.message subject.floatStyle).toList <:+: (text subject path (.mismatch m)).toList

/-- The wording that names no place. -/
def Wording.brief : Wording where
  text subject _
    | .malformed => "malformed"
    | .mismatch m => m.message subject.floatStyle
  gives_message _ _ _ := List.infix_rfl

/-- What comes after the headline. -/
def LoadError.detail (wording : Wording) : LoadError → String
  | .unreadable _ _ => ""
  | .unusable path subject error => ": " ++ wording.text subject path error

/-- The texts of files by their paths. -/
abbrev Files := String → Contents

def EvaluatorConfig.nodeDecoder : Toml.Decoder EvaluatorConfig :=
  Toml.Decoder.single "EvaluatorConfig" "max_attempts" {} (⟨·⟩) Toml.Decoder.uint32

def EvaluatorConfig.ofToml (text : String) : Except DecodeError EvaluatorConfig :=
  match Toml.document? text with
  | none => .error .malformed
  | some root =>
    match root.lookup "evaluator" with
    | none => .ok {}
    | some node => nodeDecoder node

def load {α : Type} (subject : Subject) (decode : String → Except DecodeError α) (files : Files)
    (path : String) : Except LoadError α :=
  match files path with
  | .error failure => .error (.unreadable path failure)
  | .ok text =>
    match decode text with
    | .error e => .error (.unusable path subject e)
    | .ok a => .ok a

def loadConfig (files : Files) (path : String) : Except LoadError EvaluatorConfig :=
  load .config EvaluatorConfig.ofToml files path

def loadDeclarations (files : Files) (path : String) : Except LoadError (List Declaration) :=
  load .declarations Declaration.listOfText files path

/-- The configuration from a file if there is one, with the default one otherwise; a given ceiling takes the place
of the one in it. -/
def resolveConfig (files : Files) (path : Option String) (ceiling : Option UInt32) :
    Except LoadError EvaluatorConfig := do
  let config ← match path with
    | some path => loadConfig files path
    | none => pure {}
  match ceiling with
  | some n => pure { config with maxAttempts := n }
  | none => pure config

end Adjudication
