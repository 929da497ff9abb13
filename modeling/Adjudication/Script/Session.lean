import Adjudication.Script.Play

/-!
# Sessions

A session is a list of runs that share their variables; each has a trace of its own. A script can also sift
a list of items, with one trace for all of them.
-/

namespace Adjudication.Script

structure Report (α : Type) where
  trace : List Entry
  result : Except RunError α
  vars : Vars

/-- Runs the evaluations one after the other, each in the variables that the one before it left. -/
def session (host : Host) : List Run → Vars → Option (List (Report Answer))
  | [], _ => some []
  | run :: runs, vars => do
    let (result, w) ← run.perform host { state := vars }
    let reports ← session host runs w.state
    pure (⟨w.trace, result, w.state⟩ :: reports)

/-- The routine for an item: writes it down, sets the variables `item` and `index`, and plays the block. -/
def Block.routineFor (host : Host) (body : Block) (item : Item) (index : Nat) : Play Empty := do
  Routine.write (.item item)
  Routine.modifyState fun vars => (vars.set "item" item.measure).set "index" (Int64.ofNat index)
  body.routine host

/-- Keeps the items that a script accepts, by an evaluator with the given ceiling or by the default one. -/
def sift (host : Host) (ceiling : Option UInt32) (body : Block) (items : List Item) (vars : Vars) :
    Option (Report (List Item)) :=
  match evaluatorOf ceiling with
  | .error e => some ⟨[], .error (.refused e), vars⟩
  | .ok evaluator => do
    let (kept, w) ← evaluator.filter (Block.respond host) (fun (item, index) => body.routineFor host item index)
      items.zipIdx { state := vars }
    pure ⟨w.trace, (kept.map (·.map Prod.fst)).mapError RunError.ended, w.state⟩

end Adjudication.Script
