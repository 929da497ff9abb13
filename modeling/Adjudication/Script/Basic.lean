import Adjudication.Fault

/-!
# Scripts

Routines written as data. A script works on named integer variables; its failures have a kind, which is any
text, and an integer payload. A block of steps may be given by name, and the name is looked up when the block
runs, so handlers can register one another.
-/

namespace Adjudication.Script

structure Mishap where
  kind : String
  payload : Int64
  deriving DecidableEq, Repr

instance : Failure Mishap String := ⟨Mishap.kind⟩

def Mishap.display (mishap : Mishap) : String := mishap.kind ++ ":" ++ toString mishap.payload

def Mishap.describe (mishap : Mishap) : String := "<" ++ mishap.display ++ ">"

inductive Operand where
  | literal (value : Int64)
  | variable (name : String)
  deriving DecidableEq, Repr

inductive Test where
  | constant (value : Bool)
  | not (p : Test)
  | and (p q : Test)
  | or (p q : Test)
  | lt (a b : Operand)
  | le (a b : Operand)
  | eq (a b : Operand)
  /-- Whether `b` is not zero and divides `a`. -/
  | divides (a b : Operand)
  deriving DecidableEq, Repr

instance : Inhabited Test := ⟨.constant false⟩

inductive Action where
  | say (tag : String)
  | set (name : String) (value : Operand)
  | add (name : String) (value : Operand)
  | fail (kind : String) (payload : Operand)
  deriving DecidableEq, Repr

inductive Reading where
  | attempts
  | handlers
  | decided
  | verdict
  deriving DecidableEq, Repr

/-- The way an evaluation is asked for: for words through callbacks or for a truth value, by an evaluator of
its own or by the default one. -/
inductive Form where
  | evaluate
  | decide
  | evaluateByDefault
  | decideByDefault
  deriving DecidableEq, Repr

mutual

inductive Step where
  | acceptIf (p : Test)
  | rejectIf (p : Test)
  | acceptIfThen (p : Test) (effect : List Action)
  | rejectIfThen (p : Test) (effect : List Action)
  | decideOn (p : Test)
  | decideOnThen (p : Test) (onAccept onReject : List Action)
  | accept
  | reject
  | acceptThen (effect : List Action)
  | rejectThen (effect : List Action)
  | decide
  | setAccept
  | setReject
  | raise (kind : String) (payload : Operand)
  /-- Raises the failure of something tried, which is the same as `raise`. -/
  | fail (kind : String) (payload : Operand)
  /-- Raises the failure being handled once more, with a greater payload; where none is, decides. -/
  | reraise (more : Operand)
  | undefined
  | onErr (kind : String) (body : Block)
  | onUndefined (body : Block)
  | say (tag : String)
  | set (name : String) (value : Operand)
  | add (name : String) (value : Operand)
  | handles (slots : List (Slot String))
  | load (name : String) (what : Reading)
  | describe
  | branch (p : Test) (yes no : Block)
  | loop (count : Operand) (body : Block)
  | swallow (body : Block)
  /-- Runs a whole evaluation of its own; a failure it ends with is raised again if `raises`. -/
  | nested (form : Form) (ceiling : Option UInt32) (routine : Block) (raises : Bool)

inductive Block where
  | done
  | next (step : Step) (rest : Block)
  | named (name : String)

end

instance : Inhabited Block := ⟨.done⟩

abbrev Definitions := List (String × Block)

structure Run where
  form : Form
  ceiling : Option UInt32
  routine : Block

instance : Inhabited Run := ⟨⟨.evaluate, none, .done⟩⟩

end Adjudication.Script
