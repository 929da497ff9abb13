import Adjudication.HandlerTable
import Adjudication.Verdict
import Adjudication.World

/-!
# Decisions and routines

A decision holds the staged verdict and the handler table. A routine runs inside one decision and an outside
world: it may read the decision and how many attempts were made, stage a verdict, register handlers, do
something outside, and it stops by an interrupt. Nothing else can be done to a decision: no operation clears
the verdict, takes a handler away or changes the count of attempts.

Every finalizing routine stages its verdict first and performs its effect second, so a failed effect leaves
the verdict staged.
-/

namespace Adjudication

/-- What is known of one decision under evaluation; handlers are of type `η`. -/
structure Decision (κ η : Type) where
  verdict : Verdict := .undefined
  handlers : HandlerTable κ η := .empty

instance {κ η : Type} : Inhabited (Decision κ η) := ⟨{}⟩

namespace Decision

variable {κ η : Type}

/-- A description of a decision after some attempts, given the description of a kind. -/
def describe [DecidableEq κ] (d : Decision κ η) (attempts : Nat) (kind : κ → String) : String :=
  "Decision \x7b verdict: " ++ d.verdict.label ++ ", handlers: " ++ d.handlers.describe kind ++
    ", attempts: " ++ toString attempts ++ " \x7d"

end Decision

/-- Something the caller's code does outside: it gives a value, writes entries into the trace and leaves a
state. What running it takes is up to `m`. -/
abbrev Act (σ τ : Type) (m : Type → Type) (β : Type) := σ → m (β × List τ × σ)

/-- A question to the outside, asked once for each use. -/
abbrev Predicate (σ τ : Type) (m : Type → Type) := Act σ τ m Bool

/-- Something done outside that may fail. -/
abbrev Effect (ε σ τ : Type) (m : Type → Type) := Act σ τ m (Except ε Unit)

def Effect.none {ε σ τ : Type} {m : Type → Type} [Monad m] : Effect ε σ τ m := fun s => pure (.ok (), [], s)

/-- What a routine can do, apart from stopping. -/
inductive Operation (κ η σ τ : Type) (m : Type → Type) : Type → Type 1 where
  /-- Reads how many attempts were made, the current one included. -/
  | attempts : Operation κ η σ τ m Nat
  | verdict : Operation κ η σ τ m Verdict
  | handlers : Operation κ η σ τ m (HandlerTable κ η)
  /-- Stages the verdict of a truth value; there is no way to stage that nothing is staged. -/
  | stage (accepted : Bool) : Operation κ η σ τ m Unit
  /-- Registers the handler of a slot for the rest of the evaluation, in place of the one it had. -/
  | register (slot : Slot κ) (handler : η) : Operation κ η σ τ m Unit
  | act {β : Type} (f : Act σ τ m β) : Operation κ η σ τ m β

/-- Performs an operation after so many attempts. -/
def Operation.run {κ η σ τ β : Type} {m : Type → Type} [Monad m] [DecidableEq κ] [Recorder κ τ] (attempts : Nat)
    (d : Decision κ η) (w : World σ τ) : Operation κ η σ τ m β → m (β × Decision κ η × World σ τ)
  | .attempts => pure (attempts, d, w)
  | .verdict => pure (d.verdict, d, w)
  | .handlers => pure (d.handlers, d, w)
  | .stage accepted => pure ((), { d with verdict := .ofBool accepted }, w)
  | .register slot handler =>
    let answer := d.handlers.register slot handler
    pure ((), { d with handlers := answer.2 }, if answer.1 then w.record (.replaced slot) else w)
  | .act f => do
    let (value, entries, s) ← f w.state
    pure (value, d, w.after entries s)

/-- A computation inside a decision: it has its value, it stops, or it goes on with what an operation gives.
A computation whose operations have no bound is given by its beginnings: up to a depth, beyond which an act of
it does not return. -/
inductive Routine (κ ε η σ τ : Type) (m : Type → Type) (α : Type) : Type 1 where
  | done (value : α)
  | stop (reason : Interrupt ε)
  | call {β : Type} (operation : Operation κ η σ τ m β) (next : β → Routine κ ε η σ τ m α)

namespace Routine

variable {κ ε η σ τ : Type} {m : Type → Type} {α β : Type}

/-! ### Putting routines together -/

/-- Goes on with the value of a routine, unless it stops. -/
protected def bind (x : Routine κ ε η σ τ m α) (next : α → Routine κ ε η σ τ m β) : Routine κ ε η σ τ m β :=
  match x with
  | .done value => next value
  | .stop reason => .stop reason
  | .call operation rest => .call operation fun given => (rest given).bind next

instance : Monad (Routine κ ε η σ τ m) where
  pure := .done
  bind := Routine.bind

/-- Runs a part to its end, whatever that is, and goes on with how it ended. -/
def observe : Routine κ ε η σ τ m α → Routine κ ε η σ τ m (Except (Interrupt ε) α)
  | .done value => .done (.ok value)
  | .stop reason => .done (.error reason)
  | .call operation next => .call operation fun given => (next given).observe

/-- Goes on after a part that was observed: returns what it returned or stops as it did. -/
def resumeFrom : Except (Interrupt ε) α → Routine κ ε η σ τ m α
  | .ok value => .done value
  | .error reason => .stop reason

/-- A routine that never returns, where one that returns anything is wanted. -/
def never (x : Routine κ ε η σ τ m Empty) : Routine κ ε η σ τ m α := do
  let nothing ← x
  nomatch nothing

def raise (failure : ε) : Routine κ ε η σ τ m α := .stop (.failed (.raised failure))

/-! ### Reading -/

/-- The attempts made so far, the current one included. -/
def attempts : Routine κ ε η σ τ m Nat := .call .attempts .done

def verdict : Routine κ ε η σ τ m Verdict := .call .verdict .done

def handlers : Routine κ ε η σ τ m (HandlerTable κ η) := .call .handlers .done

def decision : Routine κ ε η σ τ m (Decision κ η) := do
  return ⟨← verdict, ← handlers⟩

/-! ### The outside -/

def act (f : Act σ τ m β) : Routine κ ε η σ τ m β := .call (.act f) .done

variable [Monad m]

def state : Routine κ ε η σ τ m σ := act fun s => pure (s, [], s)

def modifyState (f : σ → σ) : Routine κ ε η σ τ m Unit := act fun s => pure ((), [], f s)

def write (entry : τ) : Routine κ ε η σ τ m Unit := act fun s => pure ((), [entry], s)

/-- Performs an effect; its failure is raised. -/
def perform (effect : Effect ε σ τ m) : Routine κ ε η σ τ m Unit := do
  match ← act effect with
  | .ok () => pure ()
  | .error failure => raise failure

/-! ### Staging and finalizing -/

def stage (accepted : Bool) : Routine κ ε η σ τ m Unit := .call (.stage accepted) .done

def setAccept : Routine κ ε η σ τ m Unit := stage true

def setReject : Routine κ ε η σ τ m Unit := stage false

def decide : Routine κ ε η σ τ m Empty := .stop .decided

/-- Stages a verdict, performs the effect, then finalizes. -/
def finalize (accepted : Bool) (effect : Effect ε σ τ m) : Routine κ ε η σ τ m Empty := do
  stage accepted
  perform effect
  decide

def accept : Routine κ ε η σ τ m Empty := finalize true .none

def reject : Routine κ ε η σ τ m Empty := finalize false .none

def acceptThen (effect : Effect ε σ τ m) : Routine κ ε η σ τ m Empty := finalize true effect

def rejectThen (effect : Effect ε σ τ m) : Routine κ ε η σ τ m Empty := finalize false effect

/-- Accepts if the predicate holds, else goes on. -/
def acceptIf (p : Predicate σ τ m) : Routine κ ε η σ τ m Unit := do
  if ← act p then never accept

/-- Rejects if the predicate holds, else goes on. -/
def rejectIf (p : Predicate σ τ m) : Routine κ ε η σ τ m Unit := do
  if ← act p then never reject

def acceptIfThen (p : Predicate σ τ m) (effect : Effect ε σ τ m) : Routine κ ε η σ τ m Unit := do
  if ← act p then never (acceptThen effect)

def rejectIfThen (p : Predicate σ τ m) (effect : Effect ε σ τ m) : Routine κ ε η σ τ m Unit := do
  if ← act p then never (rejectThen effect)

def decideOn (p : Predicate σ τ m) : Routine κ ε η σ τ m Empty := do
  if ← act p then accept else reject

/-- Finalizes with the answer to the predicate; only the effect of the chosen verdict is performed. -/
def decideOnThen (p : Predicate σ τ m) (onAccept onReject : Effect ε σ τ m) : Routine κ ε η σ τ m Empty := do
  if ← act p then acceptThen onAccept else rejectThen onReject

/-! ### Registering handlers -/

def register (slot : Slot κ) (handler : η) : Routine κ ε η σ τ m Unit := .call (.register slot handler) .done

def onErr (kind : κ) (handler : η) : Routine κ ε η σ τ m Unit := register (.raised kind) handler

def onUndefined (handler : η) : Routine κ ε η σ τ m Unit := register .undefined handler

/-! ### Running -/

variable [DecidableEq κ] [Recorder κ τ]

/-- How a run of a routine ends: its value or the interrupt, the decision and the world. -/
def run (x : Routine κ ε η σ τ m α) (attempts : Nat) (d : Decision κ η) (w : World σ τ) :
    m (Except (Interrupt ε) α × Decision κ η × World σ τ) :=
  match x with
  | .done value => pure (.ok value, d, w)
  | .stop reason => pure (.error reason, d, w)
  | .call operation next => do
    let (given, d, w) ← operation.run attempts d w
    (next given).run attempts d w

theorem run_bind [LawfulMonad m] (x : Routine κ ε η σ τ m α) (next : α → Routine κ ε η σ τ m β) (attempts : Nat)
    (d : Decision κ η) (w : World σ τ) :
    (x >>= next).run attempts d w = (x.run attempts d w >>= fun (outcome, d, w) =>
      match outcome with
      | .ok value => (next value).run attempts d w
      | .error reason => pure (.error reason, d, w)) := by
  change (x.bind next).run attempts d w = _
  induction x generalizing d w with
  | done | stop => simp [Routine.bind, run]
  | call operation rest ih => simp [Routine.bind, run, ih]

theorem run_observe [LawfulMonad m] (x : Routine κ ε η σ τ m α) (attempts : Nat) (d : Decision κ η) (w : World σ τ) :
    x.observe.run attempts d w = (fun (outcome, d, w) => (.ok outcome, d, w)) <$> x.run attempts d w := by
  induction x generalizing d w with
  | done | stop => simp [observe, run]
  | call operation next ih => simp [observe, run, ih]

theorem run_act [LawfulMonad m] (f : Act σ τ m β) (attempts : Nat) (d : Decision κ η) (w : World σ τ) :
    (act f : Routine κ ε η σ τ m β).run attempts d w =
      (f w.state >>= fun (value, entries, s) => pure (.ok value, d, w.after entries s)) := by
  simp [act, run, Operation.run]

theorem run_write [LawfulMonad m] (entry : τ) (attempts : Nat) (d : Decision κ η) (w : World σ τ) :
    (write entry : Routine κ ε η σ τ m Unit).run attempts d w = pure (.ok (), d, w.after [entry] w.state) := by
  simp [write, run_act]

/-- The interrupt of a body that never returns. -/
def stopOf : Except (Interrupt ε) Empty → Interrupt ε
  | .error reason => reason

/-- How a run of a body that never returns ends. -/
def stopIn (x : Routine κ ε η σ τ m Empty) (attempts : Nat) (d : Decision κ η) (w : World σ τ) :
    m (Interrupt ε × Decision κ η × World σ τ) :=
  (fun out => (stopOf out.1, out.2)) <$> x.run attempts d w

@[simp] theorem stopIn_stop [LawfulMonad m] (reason : Interrupt ε) (attempts : Nat) (d : Decision κ η)
    (w : World σ τ) :
    (Routine.stop reason : Routine κ ε η σ τ m Empty).stopIn attempts d w = pure (reason, d, w) := by
  simp [stopIn, run, stopOf]

theorem stopIn_call [LawfulMonad m] (operation : Operation κ η σ τ m β) (next : β → Routine κ ε η σ τ m Empty)
    (attempts : Nat) (d : Decision κ η) (w : World σ τ) :
    (Routine.call operation next).stopIn attempts d w =
      (operation.run attempts d w >>= fun (given, d, w) => (next given).stopIn attempts d w) := by
  simp [stopIn, run]

end Routine

end Adjudication
