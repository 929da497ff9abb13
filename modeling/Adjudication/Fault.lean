/-!
# Faults and interrupts

A routine stops by an interrupt: it has decided, or it has failed with a fault. A fault is either the
decision being undefined or a failure of the caller's own, and it falls into the slot under which a handler
for it would be registered.
-/

namespace Adjudication

/-- Failures of type `ε` come in kinds of type `κ`. -/
class Failure (ε : Type) (κ : outParam Type) where
  kind : ε → κ

instance : Failure Empty Empty := ⟨id⟩

/-- The place in a handler table that a fault is looked up under. -/
inductive Slot (κ : Type) where
  | undefined
  | raised (kind : κ)
  deriving DecidableEq, Repr

/-- What has to be recovered from. -/
inductive Fault (ε : Type) where
  | undefined
  | raised (failure : ε)
  deriving DecidableEq, Repr

/-- How a routine stops. -/
inductive Interrupt (ε : Type) where
  | decided
  | failed (fault : Fault ε)
  deriving DecidableEq, Repr

def Fault.slot {ε κ : Type} [Failure ε κ] : Fault ε → Slot κ
  | .undefined => .undefined
  | .raised failure => .raised (Failure.kind failure)

def Slot.describe {κ : Type} (kind : κ → String) : Slot κ → String
  | .undefined => "Undefined"
  | .raised k => "Raised(" ++ kind k ++ ")"

def Fault.describe {ε : Type} (failure : ε → String) : Fault ε → String
  | .undefined => "Undefined"
  | .raised e => "Raised(" ++ failure e ++ ")"

end Adjudication
