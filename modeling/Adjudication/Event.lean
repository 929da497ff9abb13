import Adjudication.Fault

/-!
# Events of an evaluation

What an evaluation tells about itself while it runs. Events go into the trace of the outside world, each as an
entry of its own.
-/

namespace Adjudication

/-- How urgent an event is, the most urgent first. -/
inductive Level where
  | error
  | warn
  | info
  | debug
  | trace
  deriving DecidableEq, Repr

def Level.name : Level → String
  | .error => "ERROR"
  | .warn => "WARN"
  | .info => "INFO"
  | .debug => "DEBUG"
  | .trace => "TRACE"

def Level.rank : Level → Nat
  | .error => 1
  | .warn => 2
  | .info => 3
  | .debug => 4
  | .trace => 5

/-- What happened in an evaluation whose failures have kinds of type `κ`. -/
inductive Event (κ : Type) where
  | finalized (accepted : Bool) (attempts : Nat)
  | dispatching (slot : Slot κ) (attempt : Nat)
  | propagating (slot : Slot κ)
  | replaced (slot : Slot κ)
  | ceilingReached (limit : Nat)
  deriving DecidableEq, Repr

/-- The value of an event's field. -/
inductive FieldValue where
  | flag (value : Bool)
  | count (value : Nat)
  | text (value : String)
  deriving DecidableEq, Repr

namespace Event

variable {κ : Type}

def level : Event κ → Level
  | .ceilingReached _ => .warn
  | _ => .debug

def message : Event κ → String
  | .finalized _ _ => "decision finalized"
  | .dispatching _ _ => "dispatching recovery handler"
  | .propagating _ => "no recovery handler; propagating"
  | .replaced (.raised _) => "recovery handler replaced"
  | .replaced .undefined => "undefined-decision handler replaced"
  | .ceilingReached _ => "decision re-entry ceiling reached"

def fields (kind : κ → String) : Event κ → List (String × FieldValue)
  | .finalized accepted attempts => [("accepted", .flag accepted), ("attempts", .count attempts)]
  | .dispatching slot attempt => [("kind", .text (slot.describe kind)), ("attempt", .count attempt)]
  | .propagating slot => [("kind", .text (slot.describe kind))]
  | .replaced (.raised k) => [("kind", .text (kind k))]
  | .replaced .undefined => []
  | .ceilingReached limit => [("limit", .count limit)]

end Event

/-- Entries of type `τ`, among which are the events with kinds of type `κ`. -/
class Recorder (κ : outParam Type) (τ : Type) where
  entry : Event κ → τ

end Adjudication
