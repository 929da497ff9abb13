import Adjudication.Proofs.Evaluation.Stop
import Adjudication.Script.World
import Mathlib.Logic.ExistsUnique

/-!
# Evaluation as a recursion

The rules of an evaluation, each body by itself: a body that stops ends the evaluation, or a handler is run as the
next body. `drive_iff_evaluates` says that driving a routine follows these rules, and that they lead to exactly one
ending whenever all the bodies they run stop.
-/

namespace Adjudication

variable {κ ε η σ τ : Type} [DecidableEq κ] [Failure ε κ] [Recorder κ τ]

/-- What running a body as the given attempt, in a decision and a world, ends the evaluation in. -/
inductive Evaluates (respond : η → Fault ε → Routine κ ε η σ τ Option Empty) (limit : Nat) :
    Routine κ ε η σ τ Option Empty → Nat → Decision κ η → World σ τ → Ending κ ε η σ τ → Prop where
  | last {body n d w reason d' w' ending} (stops : body.stopIn n d w = some (reason, d', w'))
      (concludes : Concludes limit n d' w' reason ending) : Evaluates respond limit body n d w ending
  | next {body n d w reason d' w' handler fault n' w'' ending} (stops : body.stopIn n d w = some (reason, d', w'))
      (recovers : Recovers limit n d' w' reason handler fault n' w'')
      (evaluates : Evaluates respond limit (respond handler fault) n' d' w'' ending) :
      Evaluates respond limit body n d w ending

/-- The bodies that an evaluation runs: the routine, and then handlers. -/
inductive Runs (respond : η → Fault ε → Routine κ ε η σ τ Option Empty) (limit : Nat)
    (routine : Routine κ ε η σ τ Option Empty) (start : World σ τ) :
    Routine κ ε η σ τ Option Empty → Nat → Decision κ η → World σ τ → Prop where
  | routine : Runs respond limit routine start routine 1 {} start
  | handler {body n d w reason d' w' handler fault n' w''} (runs : Runs respond limit routine start body n d w)
      (stops : body.stopIn n d w = some (reason, d', w'))
      (recovers : Recovers limit n d' w' reason handler fault n' w'') :
      Runs respond limit routine start (respond handler fault) n' d' w''

variable {respond : η → Fault ε → Routine κ ε η σ τ Option Empty} {limit n n' : Nat} {reason : Interrupt ε}
  {d d' : Decision κ η} {w w' w'' start : World σ τ} {handler : η} {fault : Fault ε} {ending : Ending κ ε η σ τ}
  {body routine : Routine κ ε η σ τ Option Empty} {evaluator : Evaluator}

theorem complete_of_concludes (stops : body.stopIn n d w = some (reason, d', w'))
    (concludes : Concludes limit n d' w' reason ending) :
    Evaluator.complete respond limit body n d w = some ending := by
  simp only [Evaluator.complete, stops]
  exact Evaluator.resume_ended (Turn.settle_of_concludes concludes)

theorem complete_of_recovers (stops : body.stopIn n d w = some (reason, d', w'))
    (recovers : Recovers limit n d' w' reason handler fault n' w'') :
    Evaluator.complete respond limit body n d w = Evaluator.complete respond limit (respond handler fault) n' d' w'' := by
  rw [← Evaluator.resume_recovering (Turn.settle_of_recovers recovers)]
  simp [Evaluator.complete, stops]

theorem Evaluates.complete_eq (evaluates : Evaluates respond limit body n d w ending) :
    Evaluator.complete respond limit body n d w = some ending := by
  induction evaluates with
  | last stops concludes => exact complete_of_concludes stops concludes
  | next stops recovers _ ih => exact (complete_of_recovers stops recovers).trans ih

theorem evaluates_of_complete (completed : Evaluator.complete respond limit body n d w = some ending) :
    Evaluates respond limit body n d w ending := by
  -- Every handler is run as a later attempt, so the attempts that are left decrease.
  induction left : limit - n using Nat.strongRecOn generalizing body n d w with
  | ind left ih =>
    obtain ⟨⟨reason, d', w'⟩, stops, _⟩ := Option.bind_eq_some_iff.mp completed
    rcases concludes_or_recovers limit n reason d' w' with ⟨other, concludes⟩ | ⟨handler, fault, n', w'', recovers⟩
    · cases (complete_of_concludes stops concludes).symm.trans completed
      exact .last stops concludes
    · rw [complete_of_recovers stops recovers] at completed
      have later := recovers.later
      have room := recovers.within
      exact .next stops recovers (ih (limit - n') (by omega) completed rfl)

theorem complete_eq_some_iff :
    Evaluator.complete respond limit body n d w = some ending ↔ Evaluates respond limit body n d w ending :=
  ⟨evaluates_of_complete, Evaluates.complete_eq⟩

theorem Runs.evaluates (runs : Runs respond limit routine start body n d w)
    (stop : ∀ body n d w, Runs respond limit routine start body n d w → (body.stopIn n d w).isSome) :
    ∃ ending, Evaluates respond limit body n d w ending := by
  induction left : limit - n using Nat.strongRecOn generalizing body n d w with
  | ind left ih =>
    obtain ⟨⟨reason, d', w'⟩, stops⟩ := Option.isSome_iff_exists.mp (stop _ _ _ _ runs)
    rcases concludes_or_recovers limit n reason d' w' with ⟨ending, concludes⟩ | ⟨handler, fault, n', w'', recovers⟩
    · exact ⟨ending, .last stops concludes⟩
    · have later := recovers.later
      have room := recovers.within
      obtain ⟨ending, evaluates⟩ := ih (limit - n') (by omega) (runs.handler stops recovers) rfl
      exact ⟨ending, .next stops recovers evaluates⟩

/-- Driving a routine is evaluating it by the rules, which lead to exactly one ending if all the bodies that are run
stop. -/
theorem drive_iff_evaluates :
    (∀ ending, evaluator.drive respond routine start = some ending ↔
      Evaluates respond evaluator.limit routine 1 {} start ending) ∧
    ((∀ body n d w, Runs respond evaluator.limit routine start body n d w → (body.stopIn n d w).isSome) →
      ∃! ending, Evaluates respond evaluator.limit routine 1 {} start ending) := by
  refine ⟨fun ending => complete_eq_some_iff, fun stop => ?_⟩
  obtain ⟨ending, evaluates⟩ := Runs.routine.evaluates stop
  refine ⟨ending, evaluates, fun other also => ?_⟩
  exact Option.some.inj (also.complete_eq.symm.trans evaluates.complete_eq)

/-- A handler that fails just as the body before it is run up to the ceiling. -/
theorem drive_iff_evaluates_reraising :
    let evaluator : Evaluator := ⟨⟨2⟩, by decide⟩
    let routine : Routine String Script.Mishap Unit Script.Vars Script.Entry Option Empty :=
      Routine.onErr "net" () >>= fun _ => Routine.raise ⟨"net", 7⟩
    let respond := fun _ fault => .stop (.failed fault)
    let start : Script.World := ⟨{}, []⟩
    (∃ ending, evaluator.drive respond routine start = some ending ∧
      ending.result = .error (.tooManyReentries 2) ∧ ending.attempts = 2) ∧
    ∃! ending, Evaluates respond evaluator.limit routine 1 {} start ending := by
  intro evaluator routine respond start
  constructor
  · obtain ⟨ending, evaluates, result, attempts⟩ : ∃ ending : Ending String Script.Mishap Unit Script.Vars Script.Entry,
        Evaluates respond evaluator.limit routine 1 {} start ending ∧
        ending.result = .error (.tooManyReentries 2) ∧ ending.attempts = 2 :=
      ⟨_, .next rfl (.intro .failed rfl (by decide)) (.last rfl (.exhausted .failed rfl (by decide))), rfl, rfl⟩
    exact ⟨ending, (drive_iff_evaluates.1 ending).mpr evaluates, result, attempts⟩
  · refine drive_iff_evaluates.2 fun body n d w runs => ?_
    cases runs <;> rfl

end Adjudication
