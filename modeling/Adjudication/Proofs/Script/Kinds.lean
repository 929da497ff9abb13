import Adjudication.Proofs.Evaluation.Correspondence
import Adjudication.Script.Session
import Mathlib.Data.List.Nodup
import Mathlib.Logic.Embedding.Basic

/-!
# Other names for kinds of failures

Kinds of failures can be given other names, different ones for different kinds, in all that a script and its evaluation
are made of. The main statements say that a handler table with other names answers for them as it did before.
-/

namespace Adjudication

variable {κ κ' η η' : Type}

theorem lookup_map_of_injective {α α' β β' : Type} [DecidableEq α] [DecidableEq α'] {key : α → α'}
    (injective : Function.Injective key) (g : β → β') (entries : List (α × β)) (a : α) :
    (entries.map fun (k, value) => (key k, g value)).lookup (key a) = (entries.lookup a).map g := by
  induction entries with
  | nil => rfl
  | cons entry rest ih =>
    obtain ⟨k, value⟩ := entry
    rw [List.map_cons, List.lookup_cons, List.lookup_cons]
    by_cases same : a = k
    · subst same
      simp
    · have before : (a == k) = false := by simpa using same
      have after : (key a == key k) = false := by simpa using injective.ne same
      simpa only [before, after] using ih

namespace FiniteMap

/-- The same map with other names for keys and other values. -/
def map (f : κ ↪ κ') (g : η → η') (m : FiniteMap κ η) : FiniteMap κ' η' where
  entries := m.entries.map fun (kind, handler) => (f kind, g handler)
  distinct := by
    have keys : (m.entries.map fun (kind, handler) => (f kind, g handler)).map Prod.fst =
        (m.entries.map Prod.fst).map f := by
      simp only [List.map_map]
      rfl
    rw [keys]
    exact m.distinct.map f.injective

variable (f : κ ↪ κ') (g : η → η') (m : FiniteMap κ η)

theorem size_map : (m.map f g).size = m.size := List.length_map _

variable [DecidableEq κ] [DecidableEq κ']

theorem get?_map (kind : κ) : (m.map f g).get? (f kind) = (m.get? kind).map g :=
  lookup_map_of_injective f.injective g m.entries kind

theorem insert_map (kind : κ) (handler : η) :
    (m.insert kind handler).map f g = (m.map f g).insert (f kind) (g handler) := by
  refine FiniteMap.ext ?_
  simp [insert, map, List.filter_map, Function.comp_def]

end FiniteMap

namespace HandlerTable

/-- The same table with other names for kinds and other handlers. -/
def map (f : κ ↪ κ') (g : η → η') (t : HandlerTable κ η) : HandlerTable κ' η' :=
  ⟨t.raised.map f g, t.undefined.map g⟩

variable (f : κ ↪ κ') (g : η → η') (t : HandlerTable κ η)

@[simp] theorem size_map : (t.map f g).size = t.size := by
  simp [size, map, FiniteMap.size_map]

@[simp] theorem isEmpty_map : (t.map f g).isEmpty = t.isEmpty := by
  simp [isEmpty]

variable [DecidableEq κ] [DecidableEq κ']

@[simp] theorem find?_map (slot : Slot κ) : (t.map f g).find? (slot.map f) = (t.find? slot).map g := by
  cases slot with
  | undefined => rfl
  | raised kind => exact FiniteMap.get?_map f g t.raised kind

@[simp] theorem handles_map (slot : Slot κ) : (t.map f g).handles (slot.map f) = t.handles slot := by
  rw [handles_eq, handles_eq, find?_map, Option.isSome_map]

theorem insert_map (slot : Slot κ) (handler : η) :
    (t.insert slot handler).map f g = (t.map f g).insert (slot.map f) (g handler) := by
  cases slot with
  | undefined => rfl
  | raised kind =>
    exact congrArg (HandlerTable.mk · (t.undefined.map g)) (FiniteMap.insert_map f g t.raised kind handler)

end HandlerTable

/-- The same decision with other names for kinds and other handlers. -/
def Decision.map (f : κ ↪ κ') (g : η → η') (d : Decision κ η) : Decision κ' η' := ⟨d.verdict, d.handlers.map f g⟩

namespace Script

variable (f : String ↪ String)

def Mishap.rename (mishap : Mishap) : Mishap := { mishap with kind := f mishap.kind }

def Action.rename : Action → Action
  | .say tag => .say tag
  | .set name value => .set name value
  | .add name value => .add name value
  | .fail kind payload => .fail (f kind) payload

mutual

/-- The same step with other names for kinds. -/
def Step.rename : Step → Step
  | .acceptIf p => .acceptIf p
  | .rejectIf p => .rejectIf p
  | .acceptIfThen p effect => .acceptIfThen p (effect.map (Action.rename f))
  | .rejectIfThen p effect => .rejectIfThen p (effect.map (Action.rename f))
  | .decideOn p => .decideOn p
  | .decideOnThen p onAccept onReject =>
    .decideOnThen p (onAccept.map (Action.rename f)) (onReject.map (Action.rename f))
  | .accept => .accept
  | .reject => .reject
  | .acceptThen effect => .acceptThen (effect.map (Action.rename f))
  | .rejectThen effect => .rejectThen (effect.map (Action.rename f))
  | .decide => .decide
  | .setAccept => .setAccept
  | .setReject => .setReject
  | .raise kind payload => .raise (f kind) payload
  | .fail kind payload => .fail (f kind) payload
  | .reraise more => .reraise more
  | .undefined => .undefined
  | .onErr kind body => .onErr (f kind) body.rename
  | .onUndefined body => .onUndefined body.rename
  | .say tag => .say tag
  | .set name value => .set name value
  | .add name value => .add name value
  | .handles slots => .handles (slots.map (Slot.map f))
  | .load name what => .load name what
  | .describe => .describe
  | .branch p yes no => .branch p yes.rename no.rename
  | .loop count body => .loop count body.rename
  | .swallow body => .swallow body.rename
  | .nested form ceiling routine raises => .nested form ceiling routine.rename raises

/-- The same block with other names for kinds; the names of blocks stay. -/
def Block.rename : Block → Block
  | .done => .done
  | .next step rest => .next step.rename rest.rename
  | .named name => .named name

end

def Definitions.rename (definitions : Definitions) : Definitions :=
  definitions.map fun (name, body) => (name, body.rename f)

def Run.rename (run : Run) : Run := { run with routine := run.routine.rename f }

def RunError.rename : RunError → RunError
  | .refused e => .refused e
  | .ended e => .ended (e.map (Mishap.rename f))

def Entry.rename : Entry → Entry
  | .step name outcome verdict attempts handlers =>
    .step name (outcome.map (Interrupt.map (Mishap.rename f))) verdict attempts handlers
  | .handler mishap => .handler (mishap.rename f)
  | .nested result => .nested (result.mapError (RunError.rename f))
  | .logged event => .logged (event.map f)
  | entry => entry

mutual

/-- No part of the step describes the decision, which would show kinds as they are spelt; unless `spelt`. -/
def Step.PlainUnless (spelt : Prop) : Step → Prop
  | .describe => spelt
  | .onErr _ body | .onUndefined body | .loop _ body | .swallow body | .nested _ _ body _ => body.PlainUnless spelt
  | .branch _ yes no => yes.PlainUnless spelt ∧ no.PlainUnless spelt
  | _ => True

def Block.PlainUnless (spelt : Prop) : Block → Prop
  | .done | .named _ => True
  | .next step rest => step.PlainUnless spelt ∧ rest.PlainUnless spelt

end

def Definitions.PlainUnless (spelt : Prop) (definitions : Definitions) : Prop :=
  ∀ name body, definitions.lookup name = some body → body.PlainUnless spelt

mutual

theorem Step.plainUnless_true : (step : Step) → step.PlainUnless True
  | .describe => trivial
  | .onErr _ body | .onUndefined body | .loop _ body | .swallow body | .nested _ _ body _ => body.plainUnless_true
  | .branch _ yes no => ⟨yes.plainUnless_true, no.plainUnless_true⟩
  | .acceptIf _ | .rejectIf _ | .acceptIfThen _ _ | .rejectIfThen _ _ | .decideOn _ | .decideOnThen _ _ _ | .accept
  | .reject | .acceptThen _ | .rejectThen _ | .decide | .setAccept | .setReject | .raise _ _ | .fail _ _ | .reraise _
  | .undefined | .say _ | .set _ _ | .add _ _ | .handles _ | .load _ _ => trivial

theorem Block.plainUnless_true : (block : Block) → block.PlainUnless True
  | .done | .named _ => trivial
  | .next step rest => ⟨step.plainUnless_true, rest.plainUnless_true⟩

end

end Script

abbrev Decision.rename (f : String ↪ String) (d : Decision String Script.Block) : Decision String Script.Block :=
  d.map f (Script.Block.rename f)

end Adjudication
