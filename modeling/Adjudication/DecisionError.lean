import Adjudication.Fault

/-!
# Errors of an evaluation

An evaluation that reaches no verdict ends in one of three ways: it was finalized with nothing staged, it was
re-entered too often, or a failure was raised that no handler was registered for.
-/

namespace Adjudication

/-- Why an evaluation gave no answer. -/
inductive DecisionError (ε : Type) where
  | undefined
  | tooManyReentries (limit : Nat)
  | raised (failure : ε)
  deriving DecidableEq, Repr

namespace DecisionError

variable {ε : Type}

def ofFault : Fault ε → DecisionError ε
  | .undefined => .undefined
  | .raised failure => .raised failure

theorem ofFault_injective : Function.Injective (ofFault : Fault ε → DecisionError ε) := by
  intro fault other same
  cases fault <;> cases other <;> simp_all [ofFault]

theorem ofFault_ne_tooManyReentries (fault : Fault ε) (limit : Nat) : ofFault fault ≠ .tooManyReentries limit := by
  cases fault <;> exact nofun

/-- The caller's failure inside the error, if that is what it is. -/
def failure? : DecisionError ε → Option ε
  | .raised failure => some failure
  | _ => none

def message (failure : ε → String) : DecisionError ε → String
  | .undefined => "decision finalized while undefined"
  | .tooManyReentries limit => "too many re-entries: exceeded " ++ toString limit ++ " attempts"
  | .raised e => "unhandled failure: " ++ failure e

def describe (failure : ε → String) : DecisionError ε → String
  | .undefined => "Undefined"
  | .tooManyReentries limit => "TooManyReentries \x7b limit: " ++ toString limit ++ " \x7d"
  | .raised e => "Raised(" ++ failure e ++ ")"

end DecisionError

end Adjudication
