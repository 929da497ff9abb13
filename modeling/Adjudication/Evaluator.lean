import Adjudication.DecisionError
import Adjudication.Routine

/-!
# Evaluation

An evaluator runs a routine in a fresh decision until it ends: in a verdict, in a fault that no handler is
registered for, or at the ceiling of attempts. Each body that is run, the routine first and then handlers,
takes one attempt, and so does finalizing with nothing staged.

`settle` says what a stopped body leads to, `resume` repeats it. The attempts left under the ceiling decrease
with every handler that is run, so `resume` ends whatever the handlers do.
-/

namespace Adjudication

/-- How an evaluator is set up. -/
structure EvaluatorConfig where
  maxAttempts : UInt32 := 100
  deriving DecidableEq, Repr

/-- Why an evaluator cannot be set up. -/
inductive ConfigError where
  | zeroAttempts
  deriving DecidableEq, Repr

def ConfigError.message : ConfigError → String
  | .zeroAttempts => "max_attempts must be at least 1"

def EvaluatorConfig.validate (config : EvaluatorConfig) : Except ConfigError Unit :=
  if config.maxAttempts = 0 then .error .zeroAttempts else .ok ()

theorem EvaluatorConfig.validate_eq_ok_iff {config : EvaluatorConfig} :
    config.validate = .ok () ↔ 0 < config.maxAttempts.toNat := by
  rw [Nat.pos_iff_ne_zero, ← UInt32.toNat_zero, Ne, UInt32.toNat_inj, validate]
  split <;> simp [*]

/-- An evaluator: a configuration that allows the first attempt. -/
structure Evaluator where
  config : EvaluatorConfig
  positive : 0 < config.maxAttempts.toNat

namespace Evaluator

/-- The evaluator of a configuration, unless its ceiling is zero. -/
def ofConfig (config : EvaluatorConfig) : Except ConfigError Evaluator :=
  match valid : config.validate with
  | .error e => .error e
  | .ok () => .ok ⟨config, EvaluatorConfig.validate_eq_ok_iff.mp valid⟩

theorem ofConfig_of_pos {config : EvaluatorConfig} (positive : 0 < config.maxAttempts.toNat) :
    ofConfig config = .ok ⟨config, positive⟩ := by
  have valid := EvaluatorConfig.validate_eq_ok_iff.mpr positive
  rw [ofConfig]
  split
  · rename_i invalid
    cases invalid.symm.trans valid
  · rfl

theorem ofConfig_of_zero {config : EvaluatorConfig} (zero : config.maxAttempts.toNat = 0) :
    ofConfig config = .error .zeroAttempts := by
  rw [ofConfig]
  split
  · rename_i e invalid
    cases e
    rfl
  · rename_i valid
    have positive := EvaluatorConfig.validate_eq_ok_iff.mp valid
    omega

instance : Inhabited Evaluator := ⟨⟨{}, by decide⟩⟩

/-- The most attempts an evaluation may make. -/
def limit (evaluator : Evaluator) : Nat := evaluator.config.maxAttempts.toNat

end Evaluator

/-- How an evaluation ends. -/
structure Ending (κ ε η σ τ : Type) where
  result : Except (DecisionError ε) Bool
  attempts : Nat
  decision : Decision κ η
  world : World σ τ

/-- What a stopped body leads to: the end, or a handler to run on a fault as the given attempt. -/
inductive Turn (κ ε η σ τ : Type) where
  | ended (ending : Ending κ ε η σ τ)
  | recovering (handler : η) (fault : Fault ε) (attempt : Nat) (world : World σ τ)

section Turns

variable {κ ε η σ τ : Type} [DecidableEq κ] [Failure ε κ] [Recorder κ τ]

/-- The end of an evaluation that would need one attempt too many. -/
def Ending.ceiling (limit attempts : Nat) (d : Decision κ η) (w : World σ τ) : Ending κ ε η σ τ :=
  ⟨.error (.tooManyReentries limit), attempts, d, w.record (.ceilingReached limit)⟩

/-- Where a fault goes: to the handler of exactly its slot, as one more attempt, or out of the evaluation. -/
def Turn.dispatch (limit attempts : Nat) (fault : Fault ε) (d : Decision κ η) (w : World σ τ) :
    Turn κ ε η σ τ :=
  match d.handlers.recoveryFor fault with
  | .error fault => .ended ⟨.error (.ofFault fault), attempts, d, w.record (.propagating fault.slot)⟩
  | .ok (handler, fault) =>
    if attempts < limit then
      .recovering handler fault (attempts + 1) (w.record (.dispatching fault.slot (attempts + 1)))
    else .ended (.ceiling limit attempts d w)

/-- What a body that stopped leads to. Finalizing with nothing staged takes an attempt and goes on as a fault. -/
def Turn.settle (limit attempts : Nat) (stop : Interrupt ε) (d : Decision κ η) (w : World σ τ) :
    Turn κ ε η σ τ :=
  match stop with
  | .failed fault => dispatch limit attempts fault d w
  | .decided =>
    match d.verdict.toBool? with
    | some accepted => .ended ⟨.ok accepted, attempts, d, w.record (.finalized accepted attempts)⟩
    | none =>
      if attempts < limit then dispatch limit (attempts + 1) .undefined d w
      else .ended (.ceiling limit attempts d w)

variable {limit attempts attempt : Nat} {fault received : Fault ε} {d : Decision κ η} {w w' : World σ τ} {handler : η}

theorem Turn.dispatch_of_none (absent : d.handlers.find? fault.slot = none) :
    Turn.dispatch limit attempts fault d w =
      .ended ⟨.error (.ofFault fault), attempts, d, w.record (.propagating fault.slot)⟩ := by
  simp [dispatch, HandlerTable.recoveryFor_eq, absent]

theorem Turn.dispatch_of_some (found : d.handlers.find? fault.slot = some handler) :
    Turn.dispatch limit attempts fault d w =
      if attempts < limit then
        .recovering handler fault (attempts + 1) (w.record (.dispatching fault.slot (attempts + 1)))
      else .ended (.ceiling limit attempts d w) := by
  simp [dispatch, HandlerTable.recoveryFor_eq, found]

theorem Turn.settle_of_staged {accepted : Bool} (staged : d.verdict = .ofBool accepted) :
    (Turn.settle limit attempts .decided d w : Turn κ ε η σ τ) =
      .ended ⟨.ok accepted, attempts, d, w.record (.finalized accepted attempts)⟩ := by
  simp [settle, staged]

theorem Turn.settle_of_unstaged (nothing : d.verdict = .undefined) :
    (Turn.settle limit attempts .decided d w : Turn κ ε η σ τ) =
      if attempts < limit then dispatch limit (attempts + 1) .undefined d w
      else .ended (.ceiling limit attempts d w) := by
  simp [settle, nothing, Verdict.toBool?]

theorem Turn.dispatch_recovering
    (turn : Turn.dispatch limit attempts fault d w = .recovering handler received attempt w') :
    attempt = attempts + 1 ∧ attempt ≤ limit := by
  unfold Turn.dispatch at turn
  split at turn
  · contradiction
  · split at turn
    · cases turn; omega
    · contradiction

/-- A handler is run as a later attempt, and never beyond the ceiling. -/
theorem Turn.settle_recovering {stop : Interrupt ε}
    (turn : Turn.settle limit attempts stop d w = .recovering handler received attempt w') :
    attempts < attempt ∧ attempt ≤ limit := by
  unfold Turn.settle at turn
  split at turn
  · have next := Turn.dispatch_recovering turn
    omega
  · split at turn
    · contradiction
    · split at turn
      · have next := Turn.dispatch_recovering turn
        omega
      · contradiction

end Turns

namespace Evaluator

variable {κ ε η σ τ : Type} [DecidableEq κ] [Failure ε κ] [Recorder κ τ] {m : Type → Type} [Monad m]

/-- Goes on from a stopped body until the evaluation ends; `respond` is what a handler does about a fault. -/
def resume (respond : η → Fault ε → Routine κ ε η σ τ m Empty) (limit attempts : Nat) (stop : Interrupt ε)
    (d : Decision κ η) (w : World σ τ) : m (Ending κ ε η σ τ) :=
  match turn : Turn.settle limit attempts stop d w with
  | .ended ending => pure ending
  | .recovering handler fault attempt w =>
    have _later := Turn.settle_recovering turn
    do
      let (stop, d, w) ← (respond handler fault).stopIn attempt d w
      resume respond limit attempt stop d w
termination_by limit - attempts
decreasing_by omega

/-- Runs a body as the given attempt, and goes on until the evaluation ends. -/
def complete (respond : η → Fault ε → Routine κ ε η σ τ m Empty) (limit : Nat) (body : Routine κ ε η σ τ m Empty)
    (attempt : Nat) (d : Decision κ η) (w : World σ τ) : m (Ending κ ε η σ τ) := do
  let (stop, d, w) ← body.stopIn attempt d w
  resume respond limit attempt stop d w

/-- Runs a routine in a fresh decision, as the first attempt, to the end of the evaluation. -/
def drive (evaluator : Evaluator) (respond : η → Fault ε → Routine κ ε η σ τ m Empty)
    (routine : Routine κ ε η σ τ m Empty) (w : World σ τ) : m (Ending κ ε η σ τ) :=
  complete respond evaluator.limit routine 1 {} w

section

variable {respond : η → Fault ε → Routine κ ε η σ τ m Empty} {limit attempts attempt : Nat} {stop : Interrupt ε}
  {d : Decision κ η} {w w' : World σ τ}

theorem resume_ended {ending : Ending κ ε η σ τ} (turn : Turn.settle limit attempts stop d w = .ended ending) :
    resume respond limit attempts stop d w = pure ending := by
  rw [resume]
  split
  · rename_i same
    cases same.symm.trans turn
    rfl
  · rename_i other
    cases other.symm.trans turn

theorem resume_recovering {handler : η} {fault : Fault ε}
    (turn : Turn.settle limit attempts stop d w = .recovering handler fault attempt w') :
    resume respond limit attempts stop d w = complete respond limit (respond handler fault) attempt d w' := by
  rw [resume]
  split
  · rename_i other
    cases other.symm.trans turn
  · rename_i same
    cases same.symm.trans turn
    rfl

end

def evaluate {α : Type} (evaluator : Evaluator) (respond : η → Fault ε → Routine κ ε η σ τ m Empty)
    (onAccept onReject : Act σ τ m α) (routine : Routine κ ε η σ τ m Empty) (w : World σ τ) :
    m (Except (DecisionError ε) α × World σ τ) := do
  let ending ← evaluator.drive respond routine w
  match ending.result with
  | .error e => pure (.error e, ending.world)
  | .ok accepted => do
    let (a, entries, s) ← (if accepted then onAccept else onReject) ending.world.state
    pure (.ok a, ending.world.after entries s)

def decide (evaluator : Evaluator) (respond : η → Fault ε → Routine κ ε η σ τ m Empty)
    (routine : Routine κ ε η σ τ m Empty) (w : World σ τ) : m (Except (DecisionError ε) Bool × World σ τ) :=
  evaluator.evaluate respond (fun s => pure (true, [], s)) (fun s => pure (false, [], s)) routine w

/-- Keeps the items that a routine accepts, in order. Every item is decided on its own, in the world that the
item before it left; the first error ends it all. -/
def filter {α : Type} (evaluator : Evaluator) (respond : η → Fault ε → Routine κ ε η σ τ m Empty)
    (routine : α → Routine κ ε η σ τ m Empty) :
    List α → World σ τ → m (Except (DecisionError ε) (List α) × World σ τ)
  | [], w => pure (.ok [], w)
  | item :: items, w => do
    let (answer, w) ← evaluator.decide respond (routine item) w
    match answer with
    | .error e => pure (.error e, w)
    | .ok keep => do
      let (kept, w) ← evaluator.filter respond routine items w
      pure (kept.map fun rest => if keep then item :: rest else rest, w)

end Evaluator

section

variable {κ ε η σ τ : Type} [DecidableEq κ] [Failure ε κ] [Recorder κ τ] {m : Type → Type} [Monad m]

/-- An evaluation by the default evaluator, for the value of a callback. -/
def makeDecision {α : Type} (respond : η → Fault ε → Routine κ ε η σ τ m Empty) (onAccept onReject : Act σ τ m α)
    (routine : Routine κ ε η σ τ m Empty) (w : World σ τ) : m (Except (DecisionError ε) α × World σ τ) :=
  (default : Evaluator).evaluate respond onAccept onReject routine w

/-- An evaluation by the default evaluator, for a truth value. -/
protected def decide (respond : η → Fault ε → Routine κ ε η σ τ m Empty) (routine : Routine κ ε η σ τ m Empty)
    (w : World σ τ) : m (Except (DecisionError ε) Bool × World σ τ) :=
  (default : Evaluator).decide respond routine w

end

end Adjudication
