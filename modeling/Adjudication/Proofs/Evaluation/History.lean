import Adjudication.Evaluator

/-!
# What was written before

Nothing in an evaluation reads the trace, so an evaluation in a world with a past does what it does in a world without
one, and writes it after that past. `complete_onto` says so of any body, in any decision; `decide_eq_fresh` of a whole
evaluation.
-/

namespace Adjudication

variable {κ ε η σ τ α : Type}

/-- A world after all that was written in another. -/
def World.onto (w past : World σ τ) : World σ τ := past.after w.trace w.state

@[simp] theorem World.state_onto (w past : World σ τ) : (w.onto past).state = w.state := rfl

@[simp] theorem World.after_onto (w past : World σ τ) (entries : List τ) (s : σ) :
    (w.after entries s).onto past = (w.onto past).after entries s := by
  simp [onto, after, trace]

@[simp] theorem World.record_onto [Recorder κ τ] (w past : World σ τ) (event : Event κ) :
    (w.record event).onto past = (w.onto past).record event :=
  World.after_onto w past _ _

@[simp] theorem World.fresh_onto (past : World σ τ) : World.onto ⟨past.state, []⟩ past = past := rfl

/-- What a part of an evaluation gave, in the decision and the world it left, after another world. -/
def outcomeOnto (past : World σ τ) (out : α × Decision κ η × World σ τ) : α × Decision κ η × World σ τ :=
  (out.1, out.2.1, out.2.2.onto past)

def Ending.onto (ending : Ending κ ε η σ τ) (past : World σ τ) : Ending κ ε η σ τ :=
  { ending with world := ending.world.onto past }

def Turn.onto (turn : Turn κ ε η σ τ) (past : World σ τ) : Turn κ ε η σ τ :=
  match turn with
  | .ended ending => .ended (ending.onto past)
  | .recovering handler fault attempt w => .recovering handler fault attempt (w.onto past)

section Turns

variable [DecidableEq κ] [Failure ε κ] [Recorder κ τ]

theorem Turn.dispatch_onto (limit n : Nat) (fault : Fault ε) (d : Decision κ η) (w past : World σ τ) :
    Turn.dispatch limit n fault d (w.onto past) = (Turn.dispatch limit n fault d w).onto past := by
  unfold Turn.dispatch
  split
  · simp [onto, Ending.onto]
  · split <;> simp [onto, Ending.onto, Ending.ceiling]

theorem Turn.settle_onto (limit n : Nat) (reason : Interrupt ε) (d : Decision κ η) (w past : World σ τ) :
    Turn.settle limit n reason d (w.onto past) = (Turn.settle limit n reason d w).onto past := by
  cases reason with
  | failed fault => exact dispatch_onto limit n fault d w past
  | decided =>
    simp only [settle]
    split
    · simp [onto, Ending.onto]
    · split
      · exact dispatch_onto limit (n + 1) .undefined d w past
      · simp [onto, Ending.onto, Ending.ceiling]

end Turns

variable [DecidableEq κ] [Recorder κ τ] {m : Type → Type} [Monad m] [LawfulMonad m]

theorem Operation.run_onto {β : Type} (operation : Operation κ η σ τ m β) (n : Nat) (d : Decision κ η)
    (w past : World σ τ) : operation.run n d (w.onto past) = outcomeOnto past <$> operation.run n d w := by
  cases operation with
  | attempts | verdict | handlers | stage => simp [run, outcomeOnto]
  | register slot handler =>
    simp only [run, map_pure, outcomeOnto]
    split <;> simp
  | act f => simp [run, outcomeOnto]

theorem Routine.run_onto (x : Routine κ ε η σ τ m α) (n : Nat) (d : Decision κ η) (w past : World σ τ) :
    x.run n d (w.onto past) = outcomeOnto past <$> x.run n d w := by
  induction x generalizing d w with
  | done | stop => simp [run, outcomeOnto]
  | call operation next ih =>
    simp only [run, Operation.run_onto, map_bind, bind_map_left]
    exact bind_congr fun out => ih out.1 out.2.1 out.2.2

theorem Routine.stopIn_onto (x : Routine κ ε η σ τ m Empty) (n : Nat) (d : Decision κ η) (w past : World σ τ) :
    x.stopIn n d (w.onto past) = outcomeOnto past <$> x.stopIn n d w := by
  simp only [stopIn, run_onto, Functor.map_map]
  rfl

variable [Failure ε κ]

namespace Evaluator

theorem complete_onto (respond : η → Fault ε → Routine κ ε η σ τ m Empty) (limit : Nat)
    (body : Routine κ ε η σ τ m Empty) (n : Nat) (d : Decision κ η) (w past : World σ τ) :
    complete respond limit body n d (w.onto past) = (·.onto past) <$> complete respond limit body n d w := by
  -- Every handler is run as a later attempt, so the attempts that are left decrease.
  induction left : limit - n using Nat.strongRecOn generalizing body n d w with
  | ind left ih =>
    simp only [complete, Routine.stopIn_onto, bind_map_left, map_bind]
    refine bind_congr fun (reason, d', w') => ?_
    have shifted := Turn.settle_onto limit n reason d' w' past
    cases turn : Turn.settle limit n reason d' w' with
    | ended ending =>
      rw [turn] at shifted
      simp only [outcomeOnto]
      rw [resume_ended turn, resume_ended shifted, map_pure]
    | recovering handler fault attempt w'' =>
      rw [turn] at shifted
      have later := Turn.settle_recovering turn
      simp only [outcomeOnto]
      rw [resume_recovering turn, resume_recovering shifted]
      exact ih (limit - attempt) (by omega) _ _ _ _ rfl

theorem decide_eq_drive (evaluator : Evaluator) (respond : η → Fault ε → Routine κ ε η σ τ m Empty)
    (routine : Routine κ ε η σ τ m Empty) (w : World σ τ) :
    evaluator.decide respond routine w =
      (fun ending => (ending.result, ending.world)) <$> evaluator.drive respond routine w := by
  simp only [decide, evaluate, map_eq_pure_bind]
  refine bind_congr fun ending => ?_
  cases result : ending.result with
  | error e => rfl
  | ok accepted => cases accepted <;> simp [World.after]

/-- An evaluation in a world is the one in its state alone, written after all that was written before. -/
theorem decide_eq_fresh (evaluator : Evaluator) (respond : η → Fault ε → Routine κ ε η σ τ m Empty)
    (routine : Routine κ ε η σ τ m Empty) (w : World σ τ) :
    evaluator.decide respond routine w =
      (fun (answer, left) => (answer, left.onto w)) <$> evaluator.decide respond routine { state := w.state } := by
  have shifted := complete_onto respond evaluator.limit routine 1 {} ⟨w.state, []⟩ w
  rw [World.fresh_onto] at shifted
  simp only [decide_eq_drive, drive, shifted, Functor.map_map]
  rfl

end Evaluator

end Adjudication
