import Adjudication.Fault
import Adjudication.FiniteMap

/-!
# Handler tables

A handler table has two parts: the handlers for raised failures, by their kinds, and the handler for the
undefined decision. Registering a handler where there is one replaces it; nothing ever takes a handler away.

Seen from outside a table is a map from slots. `find?_insert` says what a registration does to that map, and
`handles_iff_mem` and `size_eq_length_slots` what the questions about the two parts come to.
-/

namespace Adjudication

structure HandlerTable (κ η : Type) where
  raised : FiniteMap κ η := .empty
  undefined : Option η := none

namespace HandlerTable

variable {κ η : Type}

def empty : HandlerTable κ η := {}

instance : Inhabited (HandlerTable κ η) := ⟨empty⟩

/-- How many handlers there are. -/
def size (t : HandlerTable κ η) : Nat := t.raised.size + t.undefined.isSome.toNat

def isEmpty (t : HandlerTable κ η) : Bool := t.size == 0

/-- The slots that have a handler. -/
def slots (t : HandlerTable κ η) : List (Slot κ) :=
  t.raised.keys.map .raised ++ (t.undefined.map fun _ => .undefined).toList

theorem size_eq_length_slots (t : HandlerTable κ η) : t.size = t.slots.length := by
  cases filled : t.undefined <;> simp [size, slots, FiniteMap.size, FiniteMap.keys, filled]

variable [DecidableEq κ]

/-- Registers the handler for a kind of failures, and says whether it had one. -/
def insertRaised (t : HandlerTable κ η) (kind : κ) (handler : η) : Bool × HandlerTable κ η :=
  ((t.raised.get? kind).isSome, { t with raised := t.raised.insert kind handler })

/-- Registers the handler for the undefined decision, and says whether there was one. -/
def insertUndefined (t : HandlerTable κ η) (handler : η) : Bool × HandlerTable κ η :=
  (t.undefined.isSome, { t with undefined := some handler })

def register (t : HandlerTable κ η) : Slot κ → η → Bool × HandlerTable κ η
  | .undefined => t.insertUndefined
  | .raised kind => t.insertRaised kind

def handles (t : HandlerTable κ η) : Slot κ → Bool
  | .undefined => t.undefined.isSome
  | .raised kind => t.raised.contains kind

/-- What recovers from a fault: the handler for exactly its kind, with the fault it receives. A fault that no handler
is registered for is handed back. -/
def recoveryFor {ε : Type} [Failure ε κ] (t : HandlerTable κ η) (fault : Fault ε) :
    Except (Fault ε) (η × Fault ε) :=
  match fault with
  | .undefined =>
    match t.undefined with
    | some handler => .ok (handler, .undefined)
    | none => .error .undefined
  | .raised failure =>
    match t.raised.get? (Failure.kind failure) with
    | some handler => .ok (handler, .raised failure)
    | none => .error (.raised failure)

def describe (t : HandlerTable κ η) (kind : κ → String) : String :=
  "HandlerTable \x7b raised: [" ++ String.intercalate ", " (t.raised.keys.map kind) ++ "], undefined: " ++
    toString t.undefined.isSome ++ " \x7d"

/-! ### The map from slots -/

def find? (t : HandlerTable κ η) : Slot κ → Option η
  | .undefined => t.undefined
  | .raised kind => t.raised.get? kind

/-- The table after a registration. -/
def insert (t : HandlerTable κ η) (slot : Slot κ) (handler : η) : HandlerTable κ η := (t.register slot handler).2

theorem find?_empty (slot : Slot κ) : (empty : HandlerTable κ η).find? slot = none := by
  cases slot <;> rfl

theorem find?_insert (t : HandlerTable κ η) (slot other : Slot κ) (handler : η) :
    (t.insert slot handler).find? other = if other = slot then some handler else t.find? other := by
  cases slot with
  | undefined => cases other <;> simp [insert, register, insertUndefined, find?]
  | raised kind => cases other <;> simp [insert, register, insertRaised, find?, FiniteMap.get?_insert]

theorem handles_eq (t : HandlerTable κ η) (slot : Slot κ) : t.handles slot = (t.find? slot).isSome := by
  cases slot <;> rfl

/-- A registration replaces a handler just if the slot has one. -/
theorem register_replaced (t : HandlerTable κ η) (slot : Slot κ) (handler : η) :
    (t.register slot handler).1 = t.handles slot := by
  cases slot <;> rfl

theorem recoveryFor_eq {ε : Type} [Failure ε κ] (t : HandlerTable κ η) (fault : Fault ε) :
    t.recoveryFor fault =
      match t.find? fault.slot with
      | some handler => .ok (handler, fault)
      | none => .error fault := by
  cases fault <;> rfl

theorem handles_iff_mem (t : HandlerTable κ η) (slot : Slot κ) : t.handles slot = true ↔ slot ∈ t.slots := by
  cases slot with
  | undefined => cases filled : t.undefined <;> simp [handles, slots, filled]
  | raised kind => simp [handles, slots, FiniteMap.contains_iff_mem]

end HandlerTable

end Adjudication
