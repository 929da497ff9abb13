import Adjudication.Evaluator
import Adjudication.Script.Basic

/-!
# The world of a script

Scripts share their variables, and all that they and the evaluations do is written into one trace.
-/

namespace Adjudication.Script

/-- Variables by name; one that was never set counts as zero. -/
structure Vars where
  toList : List (String × Int64) := []
  deriving Repr

namespace Vars

def get (vars : Vars) (name : String) : Int64 := (vars.toList.lookup name).getD 0

def set (vars : Vars) (name : String) (value : Int64) : Vars :=
  ⟨(name, value) :: vars.toList.filter (·.1 ≠ name)⟩

def add (vars : Vars) (name : String) (value : Int64) : Vars := vars.set name (vars.get name + value)

def ofList (pairs : List (String × Int64)) : Vars :=
  pairs.foldl (fun vars (name, value) => vars.set name value) {}

end Vars

def Operand.value (vars : Vars) : Operand → Int64
  | .literal n => n
  | .variable name => vars.get name

def Test.holds (vars : Vars) : Test → Bool
  | .constant b => b
  | .not p => !p.holds vars
  | .and p q => p.holds vars && q.holds vars
  | .or p q => p.holds vars || q.holds vars
  | .lt a b => Decidable.decide (a.value vars < b.value vars)
  | .le a b => Decidable.decide (a.value vars ≤ b.value vars)
  | .eq a b => a.value vars == b.value vars
  | .divides a b =>
    b.value vars != 0 && Decidable.decide ((b.value vars).toInt ∣ (a.value vars).toInt)

inductive RunError where
  | refused (error : ConfigError)
  | ended (error : DecisionError Mishap)
  deriving DecidableEq, Repr

inductive Answer where
  | boolean (accepted : Bool)
  | word (granted : Bool)
  deriving DecidableEq, Repr

abbrev Result := Except RunError Answer

inductive Item where
  | number (value : Int64)
  | text (value : String)
  deriving DecidableEq, Repr

/-- The number that stands for an item in a script: itself, or how long the text is. -/
def Item.measure : Item → Int64
  | .number value => value
  | .text value => Int64.ofNat value.length

inductive Entry where
  | predicate (holds : Bool)
  | effect
  | said (tag : String)
  /-- A step on the decision: how it stopped, if it did, and what it left. -/
  | step (name : String) (outcome : Option (Interrupt Mishap)) (verdict : Verdict) (attempts handlers : Nat)
  | handler (mishap : Mishap)
  | handlerUndefined
  | handles (answers : List Bool) (isEmpty : Bool)
  | description (text : String)
  | nested (result : Result)
  | callback (granted : Bool)
  | item (item : Item)
  | logged (event : Event String)

def Entry.isLogged : Entry → Bool
  | .logged _ => true
  | _ => false

abbrev World := Adjudication.World Vars Entry

instance : Recorder String Entry := ⟨.logged⟩

/-- The predicate of a test; each time it is asked, the answer is written down. -/
def Test.ask (p : Test) : Predicate Vars Entry Option := fun vars =>
  some (p.holds vars, [.predicate (p.holds vars)], vars)

/-- Performs an action: whether it failed, what it wrote, and the variables after it. -/
def Action.perform (vars : Vars) : Action → Except Mishap Unit × List Entry × Vars
  | .say tag => (.ok (), [.said tag], vars)
  | .set name value => (.ok (), [], vars.set name (value.value vars))
  | .add name value => (.ok (), [], vars.add name (value.value vars))
  | .fail kind payload => (.error ⟨kind, payload.value vars⟩, [], vars)

/-- Performs some actions, one after the other up to the first that fails. -/
def Action.performEach (vars : Vars) : List Action → Except Mishap Unit × List Entry × Vars
  | [] => (.ok (), [], vars)
  | action :: actions =>
    match action.perform vars with
    | (.ok (), entries, vars) =>
      let (outcome, rest, vars) := performEach vars actions
      (outcome, entries ++ rest, vars)
    | failed => failed

/-- The side effect made of some actions; that it is performed is written down first. -/
def Action.performAll (actions : List Action) : Effect Mishap Vars Entry Option := fun vars =>
  let (outcome, entries, vars) := performEach vars actions
  some (outcome, .effect :: entries, vars)

end Adjudication.Script
