import Adjudication.Proofs.Evaluation.BigStep
import Adjudication.Proofs.Evaluation.Course
import Adjudication.Proofs.Script.Conclusion

/-!
# How deep a script is followed

Blocks by name and evaluations of their own are followed to a depth. `Run.report?_mono` says that a run which has a
report has the same one at every greater depth, so the report belongs to the run and not to the depth.
-/

namespace Adjudication

variable {κ ε η σ τ α β : Type} [DecidableEq κ] [Recorder κ τ]

/-- The second routine ends as the first one does, wherever the first one ends. -/
def Routine.Approximates (x y : Routine κ ε η σ τ Option α) : Prop :=
  ∀ n d w out, x.run n d w = some out → y.run n d w = some out

namespace Routine.Approximates

theorem refl (x : Routine κ ε η σ τ Option α) : x.Approximates x := fun _ _ _ _ ended => ended

theorem bind {x y : Routine κ ε η σ τ Option α} {next next' : α → Routine κ ε η σ τ Option β}
    (first : x.Approximates y) (rest : ∀ value, (next value).Approximates (next' value)) :
    (x >>= next).Approximates (y >>= next') := by
  intro n d w out ended
  rw [run_bind] at ended ⊢
  obtain ⟨⟨outcome, d', w'⟩, ran, ended⟩ := Option.bind_eq_some_iff.mp ended
  rw [first n d w _ ran]
  cases outcome with
  | error reason => exact ended
  | ok value => exact rest value n d' w' out ended

theorem observe {x y : Routine κ ε η σ τ Option α} (part : x.Approximates y) :
    x.observe.Approximates y.observe := by
  intro n d w out ended
  rw [run_observe] at ended ⊢
  obtain ⟨before, ran, same⟩ := Option.map_eq_some_iff.mp ended
  rw [part n d w before ran]
  exact congrArg some same

theorem act {f f' : Act σ τ Option β} (more : ∀ s out, f s = some out → f' s = some out) :
    (Routine.act f : Routine κ ε η σ τ Option β).Approximates (Routine.act f') := by
  intro n d w out ended
  obtain ⟨⟨given, d', w'⟩, returned, ended⟩ := Option.bind_eq_some_iff.mp ended
  obtain ⟨entries, s, answer, rfl, rfl⟩ := Operation.run_act_eq_some_iff.mp returned
  have again : (Operation.act f').run n d' w = some (given, d', w.after entries s) :=
    Operation.run_act_eq_some_iff.mpr ⟨entries, s, more _ _ answer, rfl, rfl⟩
  rw [Routine.act, run, again]
  exact ended

theorem stopIn {x y : Routine κ ε η σ τ Option Empty} (body : x.Approximates y) {n : Nat} {d : Decision κ η}
    {w : World σ τ} {out : Interrupt ε × Decision κ η × World σ τ} (stops : x.stopIn n d w = some out) :
    y.stopIn n d w = some out := by
  obtain ⟨before, ran, same⟩ := Option.map_eq_some_iff.mp stops
  rw [Routine.stopIn, body n d w before ran]
  exact congrArg some same

end Routine.Approximates

section

variable [Failure ε κ] {respond respond' : η → Fault ε → Routine κ ε η σ τ Option Empty}
  {x y : Routine κ ε η σ τ Option Empty} {w : World σ τ} {ending : Ending κ ε η σ τ}
  (handlers : ∀ handler fault, (respond handler fault).Approximates (respond' handler fault))
include handlers

theorem Evaluates.approximates {limit n : Nat} {d : Decision κ η}
    (evaluates : Evaluates respond limit x n d w ending) (body : x.Approximates y) :
    Evaluates respond' limit y n d w ending := by
  induction evaluates generalizing y with
  | last stops concludes => exact .last (body.stopIn stops) concludes
  | next stops recovers _ ih => exact .next (body.stopIn stops) recovers (ih (handlers _ _))

theorem Evaluator.drive_approximates {evaluator : Evaluator} (body : x.Approximates y)
    (ended : evaluator.drive respond x w = some ending) : evaluator.drive respond' y w = some ending :=
  ((evaluates_of_complete ended).approximates handlers body).complete_eq

end

namespace Script

/-- The second host does for a step what the first one does, wherever the first one does anything. -/
structure Host.Approximates (host host' : Host) : Prop where
  block : ∀ received name, (host.block received name).Approximates (host'.block received name)
  evaluation : ∀ run vars out, host.evaluation run vars = some out → host'.evaluation run vars = some out

theorem Play.tooDeep_approximates {α : Type} (x : Play α) : (Play.tooDeep : Play α).Approximates x := nofun

theorem Play.times_approximates {x y : Play Unit} (part : x.Approximates y) (n : Nat) :
    (times n x).Approximates (times n y) := by
  induction n with
  | zero => exact .refl _
  | succ n ih => exact part.bind fun _ => ih

section

variable {host host' : Host} (deeper : host.Approximates host')
include deeper

mutual

theorem Step.play_approximates (received : Option Mishap) :
    (step : Step) → (step.play host received).Approximates (step.play host' received)
  | .branch p yes no => by
    simp only [Step.play]
    refine .bind (.refl _) fun vars => ?_
    split
    · exact Block.play_approximates received yes
    · exact Block.play_approximates received no
  | .loop _ body => .bind (.refl _) fun _ => Play.times_approximates (Block.play_approximates received body) _
  | .swallow body => (Block.play_approximates received body).observe.bind fun _ => .refl _
  | .nested form ceiling routine _ => .bind (.act (deeper.evaluation ⟨form, ceiling, routine⟩)) fun _ => .refl _
  | .acceptIf .. | .rejectIf .. | .acceptIfThen .. | .rejectIfThen .. | .decideOn .. | .decideOnThen .. | .accept
  | .reject | .acceptThen .. | .rejectThen .. | .decide | .setAccept | .setReject | .raise .. | .fail .. | .reraise ..
  | .undefined | .onErr .. | .onUndefined .. | .say .. | .set .. | .add .. | .handles .. | .load .. | .describe => by
    simp only [Step.play]
    exact .refl _

theorem Block.play_approximates (received : Option Mishap) :
    (block : Block) → (block.play host received).Approximates (block.play host' received)
  | .done => .refl (pure ())
  | .next step rest => (Step.play_approximates received step).bind fun _ => Block.play_approximates received rest
  | .named name => deeper.block received name

end

theorem Block.respond_approximates (body : Block) (fault : Fault Mishap) :
    (Block.respond host body fault).Approximates (Block.respond host' body fault) := by
  cases fault with
  | raised mishap =>
    refine .bind (.refl _) fun _ => .bind (.refl _) fun _ => ?_
    exact (Block.play_approximates deeper (some mishap) body).bind fun _ => .refl _
  | undefined => exact .bind (.refl _) fun _ => (Block.play_approximates deeper none body).bind fun _ => .refl _

theorem Run.perform_approximates (run : Run) (w : World) (out : Result × World)
    (ended : run.perform host w = some out) : run.perform host' w = some out := by
  cases made : run.form.evaluator run.ceiling with
  | error e =>
    rw [perform_of_refused made] at ended ⊢
    exact ended
  | ok evaluator =>
    rw [perform_of_accepted made] at ended ⊢
    obtain ⟨ending, driven, same⟩ := Option.map_eq_some_iff.mp ended
    have routine : (run.routine.routine host).Approximates (run.routine.routine host') :=
      (Block.play_approximates deeper none run.routine).bind fun _ => .refl _
    have driven' := Evaluator.drive_approximates (Block.respond_approximates deeper) routine driven
    rw [driven']
    exact congrArg some same

theorem Run.report?_approximates (run : Run) (vars : Vars) (report : Report Answer)
    (ended : run.report? host vars = some report) : run.report? host' vars = some report := by
  obtain ⟨out, performed, same⟩ := Option.map_eq_some_iff.mp ended
  rw [report?, perform_approximates deeper run _ out performed]
  exact congrArg some same

end

theorem Host.ofDepth_approximates_succ (definitions : Definitions) (depth : Nat) :
    (Host.ofDepth definitions depth).Approximates (Host.ofDepth definitions (depth + 1)) := by
  induction depth with
  | zero => exact ⟨fun _ _ => Play.tooDeep_approximates _, nofun⟩
  | succ depth ih =>
    refine ⟨fun received name => ?_, fun run vars out ended => ?_⟩
    · simp only [Host.ofDepth]
      split
      · exact Block.play_approximates ih received _
      · exact .refl _
    · rw [evaluation_eq_report?] at ended ⊢
      obtain ⟨report, reported, same⟩ := Option.map_eq_some_iff.mp ended
      rw [Run.report?_approximates ih run vars report reported]
      exact congrArg some same

/-- A run that has an ending has the same one when it is followed deeper. -/
theorem Run.report?_mono {definitions : Definitions} {depth depth' : Nat} (deeper : depth ≤ depth') {run : Run}
    {vars : Vars} {report : Report Answer} (ended : run.report? (Host.ofDepth definitions depth) vars = some report) :
    run.report? (Host.ofDepth definitions depth') vars = some report := by
  induction deeper with
  | refl => exact ended
  | step _ ih => exact report?_approximates (Host.ofDepth_approximates_succ definitions _) run vars report ih

end Script

end Adjudication
