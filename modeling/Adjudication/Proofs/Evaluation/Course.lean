import Adjudication.Proofs.Evaluation.Stop
import Mathlib.Logic.Relation

/-!
# The course of an evaluation

An evaluation goes from point to point: an operation of the running body is performed, or a body has stopped
and a handler is run. A point also knows all that was done before it, which nothing in the evaluation can
read. `steps_to_end` says that every evaluation comes to a last point, `drive_eq_some_iff` and `drive_eq_none_iff`
that the evaluation ends as that point does, or does not end because that point is stuck.
-/

namespace Adjudication

inductive Deed (κ ε η : Type) where
  | staged (accepted : Bool)
  | registered (slot : Slot κ) (handler : η)
  | stopped (reason : Interrupt ε)
  | recovered (handler : η) (fault : Fault ε)

def Operation.deeds {κ ε η σ τ β : Type} {m : Type → Type} : Operation κ η σ τ m β → List (Deed κ ε η)
  | .stage accepted => [.staged accepted]
  | .register slot handler => [.registered slot handler]
  | _ => []

structure Point (κ ε η σ τ : Type) where
  attempt : Nat
  /-- What is left of the running body. -/
  rest : Routine κ ε η σ τ Option Empty
  decision : Decision κ η
  world : World σ τ
  /-- All that was done before, in order. -/
  deeds : List (Deed κ ε η)

variable {κ ε η σ τ : Type}

def Point.start (routine : Routine κ ε η σ τ Option Empty) (w : World σ τ) : Point κ ε η σ τ :=
  ⟨1, routine, {}, w, []⟩

/-- Whatever it is given, the routine comes to no operation of this sort. -/
def Routine.Avoids {α : Type} {m : Type → Type} (sort : ∀ {β : Type}, Operation κ η σ τ m β → Prop) :
    Routine κ ε η σ τ m α → Prop
  | .call operation next => ¬ sort operation ∧ ∀ given, (next given).Avoids sort
  | _ => True

/-- The running body comes to an operation of this sort next. -/
def Point.Performs (sort : ∀ {β : Type}, Operation κ η σ τ Option β → Prop) (p : Point κ ε η σ τ) : Prop :=
  match p.rest with
  | .call operation _ => sort operation
  | _ => False

theorem Point.not_performs {sort : ∀ {β : Type}, Operation κ η σ τ Option β → Prop} {p : Point κ ε η σ τ}
    (plain : p.rest.Avoids sort) : ¬ p.Performs sort := by
  obtain ⟨_, rest, _, _, _⟩ := p
  cases rest with
  | done | stop => exact id
  | call => exact plain.1

variable [DecidableEq κ] [Recorder κ τ]

theorem Operation.run_act_eq_some_iff {β : Type} {f : Act σ τ Option β} {n : Nat} {d d' : Decision κ η}
    {w w' : World σ τ} {given : β} :
    (Operation.act f).run n d w = some (given, d', w') ↔
      ∃ entries s, f w.state = some (given, entries, s) ∧ d' = d ∧ w' = w.after entries s := by
  constructor
  · intro returned
    obtain ⟨⟨value, entries, s⟩, answer, left⟩ := Option.bind_eq_some_iff.mp returned
    cases left
    exact ⟨entries, s, answer, rfl, rfl⟩
  · rintro ⟨entries, s, answer, rfl, rfl⟩
    rw [Operation.run, answer]
    rfl

theorem Operation.run_act_eq_none_iff {β : Type} {f : Act σ τ Option β} {n : Nat} {d : Decision κ η} {w : World σ τ} :
    (Operation.act f).run n d w = none ↔ f w.state = none := by
  cases answer : f w.state <;> simp [Operation.run, answer]

theorem Operation.trace_prefix {β : Type} {operation : Operation κ η σ τ Option β} {n : Nat} {d d' : Decision κ η}
    {w w' : World σ τ} {given : β} (returned : operation.run n d w = some (given, d', w')) :
    w.trace <+: w'.trace := by
  cases operation with
  | attempts | verdict | handlers | stage =>
    cases returned
    exact List.prefix_rfl
  | register slot handler =>
    cases returned
    split
    · exact ⟨_, (World.trace_record w _).symm⟩
    · exact List.prefix_rfl
  | act f =>
    obtain ⟨entries, s, _, rfl, rfl⟩ := Operation.run_act_eq_some_iff.mp returned
    exact ⟨entries, (World.trace_after w entries s).symm⟩

/-- An operation that does not return in a state does not return there at all. -/
theorem Operation.run_eq_none {β : Type} {operation : Operation κ η σ τ Option β} {n n' : Nat} {d d' : Decision κ η}
    {w w' : World σ τ} (same : w'.state = w.state) (never : operation.run n d w = none) :
    operation.run n' d' w' = none := by
  cases operation with
  | attempts | verdict | handlers | stage | register => cases never
  | act f =>
    rw [Operation.run_act_eq_none_iff] at never ⊢
    rw [same]
    exact never

variable [Failure ε κ]

/-- One step of an evaluation under a ceiling. -/
inductive Step (respond : η → Fault ε → Routine κ ε η σ τ Option Empty) (limit : Nat) :
    Point κ ε η σ τ → Point κ ε η σ τ → Prop where
  | call {n d w done β given d' w'} {operation : Operation κ η σ τ Option β}
      {next : β → Routine κ ε η σ τ Option Empty} (returned : operation.run n d w = some (given, d', w')) :
      Step respond limit ⟨n, .call operation next, d, w, done⟩ ⟨n, next given, d', w', done ++ operation.deeds⟩
  | recover {n d w done reason handler fault n' w'} (recovers : Recovers limit n d w reason handler fault n' w') :
      Step respond limit ⟨n, .stop reason, d, w, done⟩
        ⟨n', respond handler fault, d, w', done ++ [.stopped reason, .recovered handler fault]⟩

/-- The running body waits for an operation that does not return. -/
def Point.Stuck (p : Point κ ε η σ τ) : Prop :=
  ∃ (β : Type) (operation : Operation κ η σ τ Option β) (next : β → Routine κ ε η σ τ Option Empty),
    p.rest = .call operation next ∧ operation.run p.attempt p.decision p.world = none

/-- The body finalizes, and nothing was staged by it or before it. -/
def Point.FinalizesUnstaged (p : Point κ ε η σ τ) : Prop := p.rest = .stop .decided ∧ p.decision.verdict = .undefined

/-- The evaluation ends at this point: its body has stopped, and no handler is run. -/
def Point.EndsIn (limit : Nat) (p : Point κ ε η σ τ) (ending : Ending κ ε η σ τ) : Prop :=
  ∃ reason, p.rest = .stop reason ∧ Concludes limit p.attempt p.decision p.world reason ending

/-- The body has stopped, and a handler is run on a fault as the given attempt, in the decision as it was left. -/
def Point.HandsTo (limit : Nat) (p : Point κ ε η σ τ) (handler : η) (fault : Fault ε) (attempt : Nat) : Prop :=
  ∃ reason w', p.rest = .stop reason ∧
    Recovers limit p.attempt p.decision p.world reason handler fault attempt w' ∧ w'.state = p.world.state

namespace Evaluator

/-- The points that an evaluation comes to. -/
def Reaches (evaluator : Evaluator) (respond : η → Fault ε → Routine κ ε η σ τ Option Empty)
    (routine : Routine κ ε η σ τ Option Empty) (w : World σ τ) : Point κ ε η σ τ → Prop :=
  Relation.ReflTransGen (Step respond evaluator.limit) (.start routine w)

/-- How an evaluation goes on from a point to its end. -/
def proceed (respond : η → Fault ε → Routine κ ε η σ τ Option Empty) (limit : Nat) (p : Point κ ε η σ τ) :
    Option (Ending κ ε η σ τ) :=
  complete respond limit p.rest p.attempt p.decision p.world

end Evaluator

variable {respond : η → Fault ε → Routine κ ε η σ τ Option Empty} {limit n : Nat} {reason : Interrupt ε}
  {d d' : Decision κ η} {w w' : World σ τ} {ending : Ending κ ε η σ τ} {evaluator : Evaluator}
  {routine : Routine κ ε η σ τ Option Empty} {p q : Point κ ε η σ τ}

/-! ### One step -/

theorem Step.act {β : Type} {f : Act σ τ Option β} {next : β → Routine κ ε η σ τ Option Empty} {given : β}
    {entries : List τ} {s : σ} {deeds : List (Deed κ ε η)} (answer : f w.state = some (given, entries, s)) :
    Step respond limit ⟨n, .call (.act f) next, d, w, deeds⟩ ⟨n, next given, d, w.after entries s, deeds⟩ := by
  have returned : (Operation.act f).run n d w = some (given, d, w.after entries s) :=
    Operation.run_act_eq_some_iff.mpr ⟨entries, s, answer, rfl, rfl⟩
  have step : Step respond limit ⟨n, .call (.act f) next, d, w, deeds⟩ _ := .call returned
  simpa [Operation.deeds] using step

theorem Step.attempt_le (step : Step respond limit p q) : p.attempt ≤ q.attempt := by
  cases step with
  | call => exact Nat.le_refl _
  | recover recovers => exact Nat.le_of_lt recovers.later

theorem Step.trace_prefix (step : Step respond limit p q) : p.world.trace <+: q.world.trace := by
  cases step with
  | call returned => exact Operation.trace_prefix returned
  | recover recovers =>
    obtain ⟨_, _, _⟩ := recovers
    exact ⟨_, (World.trace_record _ _).symm⟩

theorem Step.deeds_prefix (step : Step respond limit p q) : p.deeds <+: q.deeds := by
  cases step <;> exact List.prefix_append _ _

theorem deeds_prefix_of_steps (steps : Relation.ReflTransGen (Step respond limit) p q) : p.deeds <+: q.deeds := by
  induction steps with
  | refl => exact List.prefix_rfl
  | tail _ step ih => exact ih.trans step.deeds_prefix

theorem Step.attempt_le_limit (step : Step respond limit p q) (within : p.attempt ≤ limit) : q.attempt ≤ limit := by
  cases step with
  | call => exact within
  | recover recovers => exact recovers.within

/-- Where an evaluation ends, it takes no further step. -/
theorem Point.EndsIn.no_step (ends : p.EndsIn limit ending) : ¬ Step respond limit p q := by
  obtain ⟨reason, stopped, concludes⟩ := ends
  intro step
  cases step with
  | call => cases stopped
  | recover recovers =>
    cases stopped
    have settled := Turn.settle_of_concludes concludes
    rw [Turn.settle_of_recovers recovers] at settled
    cases settled

theorem Point.EndsIn.state_eq (ends : p.EndsIn limit ending) : ending.world.state = p.world.state := by
  obtain ⟨_, _, concludes⟩ := ends
  exact concludes.state_eq

theorem steps_to_stop (respond : η → Fault ε → Routine κ ε η σ τ Option Empty) (limit n : Nat)
    (body : Routine κ ε η σ τ Option Empty) (d : Decision κ η) (w : World σ τ) (done : List (Deed κ ε η)) :
    ∃ p, Relation.ReflTransGen (Step respond limit) ⟨n, body, d, w, done⟩ p ∧ p.attempt = n ∧
      (p.Stuck ∨ ∃ reason, p.rest = .stop reason) := by
  induction body generalizing d w done with
  | done value => exact value.elim
  | stop reason => exact ⟨_, .refl, rfl, .inr ⟨reason, rfl⟩⟩
  | call operation next ih =>
    cases returned : operation.run n d w with
    | none => exact ⟨_, .refl, rfl, .inl ⟨_, operation, next, rfl, returned⟩⟩
    | some out =>
      obtain ⟨given, d', w'⟩ := out
      obtain ⟨p, steps, same, last⟩ := ih given d' w' (done ++ operation.deeds)
      exact ⟨p, .head (.call returned) steps, same, last⟩

/-- From every point an evaluation comes to its end, unless it is stuck before. -/
theorem steps_to_end (respond : η → Fault ε → Routine κ ε η σ τ Option Empty) (limit : Nat) (p : Point κ ε η σ τ) :
    ∃ q, Relation.ReflTransGen (Step respond limit) p q ∧ (q.Stuck ∨ ∃ ending, q.EndsIn limit ending) := by
  -- Every handler is run as a later attempt, so the attempts that are left decrease.
  induction left : limit - p.attempt using Nat.strongRecOn generalizing p with
  | ind left ih =>
    obtain ⟨⟨n, rest, d, w, done⟩, steps, same, stuck | ⟨reason, stopped⟩⟩ :=
      steps_to_stop respond limit p.attempt p.rest p.decision p.world p.deeds
    · exact ⟨_, steps, .inl stuck⟩
    · cases same
      cases stopped
      rcases concludes_or_recovers limit p.attempt reason d w with
        ⟨ending, concludes⟩ | ⟨handler, fault, n', w', recovers⟩
      · exact ⟨_, steps, .inr ⟨ending, reason, rfl, concludes⟩⟩
      · have later := recovers.later
        have room := recovers.within
        obtain ⟨q, more, last⟩ := ih (limit - n') (by omega)
          ⟨n', respond handler fault, d, w', done ++ [.stopped reason, .recovered handler fault]⟩ rfl
        exact ⟨q, (steps.tail (.recover recovers)).trans more, last⟩

namespace Evaluator

theorem proceed_step (step : Step respond limit p q) : proceed respond limit p = proceed respond limit q := by
  cases step with
  | call returned => simp [proceed, complete, Routine.stopIn_call, returned]
  | recover recovers => exact resume_recovering (Turn.settle_of_recovers recovers)

theorem proceed_of_endsIn (ends : p.EndsIn limit ending) : proceed respond limit p = some ending := by
  obtain ⟨reason, stopped, concludes⟩ := ends
  simp only [proceed, complete, stopped, Routine.stopIn_stop]
  exact resume_ended (Turn.settle_of_concludes concludes)

theorem proceed_of_stuck (stuck : p.Stuck) : proceed respond limit p = none := by
  obtain ⟨β, operation, next, waiting, never⟩ := stuck
  simp [proceed, complete, waiting, Routine.stopIn_call, never]

/-! ### Whole evaluations -/

namespace Reaches

theorem attempt_pos (reached : evaluator.Reaches respond routine w p) : 1 ≤ p.attempt := by
  induction reached with
  | refl => exact Nat.le_refl 1
  | tail _ step ih => exact Nat.le_trans ih step.attempt_le

theorem attempt_le_limit (reached : evaluator.Reaches respond routine w p) : p.attempt ≤ evaluator.limit := by
  induction reached with
  | refl => exact evaluator.positive
  | tail _ step ih => exact step.attempt_le_limit ih

theorem trace_prefix (reached : evaluator.Reaches respond routine w p) : w.trace <+: p.world.trace := by
  induction reached with
  | refl => exact List.prefix_rfl
  | tail _ step ih => exact ih.trans step.trace_prefix

theorem avoids {sort : ∀ {β : Type}, Operation κ η σ τ Option β → Prop} (plain : routine.Avoids sort)
    (plainly : ∀ handler fault, (respond handler fault).Avoids sort) (reached : evaluator.Reaches respond routine w p) :
    p.rest.Avoids sort := by
  induction reached with
  | refl => exact plain
  | tail _ step ih =>
    cases step with
    | call => exact ih.2 _
    | recover => exact plainly _ _

theorem drive_eq (reached : evaluator.Reaches respond routine w p) :
    evaluator.drive respond routine w = proceed respond evaluator.limit p := by
  induction reached with
  | refl => rfl
  | tail _ step ih => exact ih.trans (proceed_step step)

theorem drive_of_endsIn (reached : evaluator.Reaches respond routine w p) (ends : p.EndsIn evaluator.limit ending) :
    evaluator.drive respond routine w = some ending :=
  reached.drive_eq.trans (proceed_of_endsIn ends)

/-- Where a handler is handed a fault, the evaluation goes on as that handler does. -/
theorem drive_of_handsTo {handler : η} {fault : Fault ε} (reached : evaluator.Reaches respond routine w p)
    (hands : p.HandsTo evaluator.limit handler fault n) :
    ∃ w', w'.state = p.world.state ∧ evaluator.drive respond routine w =
      complete respond evaluator.limit (respond handler fault) n p.decision w' := by
  obtain ⟨attempt, rest, d, v, done⟩ := p
  obtain ⟨reason, w', stopped, recovers, same⟩ := hands
  cases stopped
  exact ⟨w', same, drive_eq (reached.tail (.recover recovers))⟩

end Reaches

theorem exists_last (evaluator : Evaluator) (respond : η → Fault ε → Routine κ ε η σ τ Option Empty)
    (routine : Routine κ ε η σ τ Option Empty) (w : World σ τ) :
    ∃ p, evaluator.Reaches respond routine w p ∧ (p.Stuck ∨ ∃ ending, p.EndsIn evaluator.limit ending) :=
  steps_to_end respond evaluator.limit _

/-- An evaluation ends in just the way that a point it comes to ends. -/
theorem drive_eq_some_iff :
    evaluator.drive respond routine w = some ending ↔
      ∃ p, evaluator.Reaches respond routine w p ∧ p.EndsIn evaluator.limit ending := by
  refine ⟨fun ended => ?_, fun ⟨_, reached, ends⟩ => reached.drive_of_endsIn ends⟩
  obtain ⟨p, reached, stuck | ⟨other, ends⟩⟩ := evaluator.exists_last respond routine w
  · cases ended.symm.trans (reached.drive_eq.trans (proceed_of_stuck stuck))
  · cases ended.symm.trans (reached.drive_of_endsIn ends)
    exact ⟨p, reached, ends⟩

theorem drive_eq_none_iff :
    evaluator.drive respond routine w = none ↔ ∃ p, evaluator.Reaches respond routine w p ∧ p.Stuck := by
  refine ⟨fun endless => ?_, fun ⟨_, reached, stuck⟩ => reached.drive_eq.trans (proceed_of_stuck stuck)⟩
  obtain ⟨p, reached, stuck | ⟨ending, ends⟩⟩ := evaluator.exists_last respond routine w
  · exact ⟨p, reached, stuck⟩
  · cases endless.symm.trans (reached.drive_of_endsIn ends)

end Evaluator

end Adjudication
