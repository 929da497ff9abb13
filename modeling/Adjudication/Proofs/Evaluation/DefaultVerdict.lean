import Adjudication.Proofs.Evaluation.BigStep
import Adjudication.Proofs.Evaluation.Course

/-!
# A verdict staged at the front

A verdict that is staged before anything else is run is there until the routine or a handler stages another one. As long
as no body reads the verdict, that cannot be told before a body finalizes with nothing staged: `drive_stage_first`
relates the evaluations with and without the verdict.
-/

namespace Adjudication

variable {κ ε η σ τ : Type} {accepted answer : Bool}

/-- The same decision with a verdict wherever nothing is staged. -/
structure Decision.Defaulted (accepted : Bool) (d d' : Decision κ η) : Prop where
  verdict : d'.verdict.toBool? = d.verdict.toBool?.or (some accepted)
  handlers : d'.handlers = d.handlers

namespace Decision.Defaulted

variable {d d' : Decision κ η} (defaulted : d.Defaulted accepted d')
include defaulted

theorem verdict_of_staged (staged : d.verdict = .ofBool answer) : d'.verdict = .ofBool answer := by
  have same := defaulted.verdict
  rw [staged, Verdict.toBool?_ofBool, Option.some_or] at same
  exact Verdict.toBool?_eq_some_iff.mp same

theorem verdict_of_unstaged (nothing : d.verdict = .undefined) : d'.verdict = .ofBool accepted := by
  have same := defaulted.verdict
  rw [Verdict.toBool?_eq_none_iff.mpr nothing, Option.none_or] at same
  exact Verdict.toBool?_eq_some_iff.mp same

theorem stage (answer : Bool) :
    Decision.Defaulted accepted { d with verdict := .ofBool answer } { d' with verdict := .ofBool answer } := by
  refine ⟨?_, defaulted.handlers⟩
  rw [Verdict.toBool?_ofBool, Option.some_or]

theorem withHandlers (table : HandlerTable κ η) :
    Decision.Defaulted accepted { d with handlers := table } { d' with handlers := table } :=
  ⟨defaulted.verdict, rfl⟩

end Decision.Defaulted

/-! ### Operations -/

def Operation.ReadsVerdict {β : Type} {m : Type → Type} : Operation κ η σ τ m β → Prop
  | .verdict => True
  | _ => False

theorem Operation.run_defaulted [DecidableEq κ] [Recorder κ τ] {β : Type} {operation : Operation κ η σ τ Option β}
    {n : Nat} {d d' e : Decision κ η} {w v : World σ τ} {given : β} (unread : ¬ operation.ReadsVerdict)
    (defaulted : d.Defaulted accepted d') (returned : operation.run n d w = some (given, e, v)) :
    ∃ e', operation.run n d' w = some (given, e', v) ∧ e.Defaulted accepted e' := by
  cases operation with
  | verdict => exact absurd trivial unread
  | attempts =>
    cases returned
    exact ⟨d', rfl, defaulted⟩
  | handlers =>
    cases returned
    exact ⟨d', by rw [Operation.run, defaulted.handlers]; rfl, defaulted⟩
  | stage answer =>
    cases returned
    exact ⟨_, rfl, defaulted.stage answer⟩
  | register slot handler =>
    cases returned
    refine ⟨_, ?_, defaulted.withHandlers _⟩
    rw [Operation.run, defaulted.handlers]
    rfl
  | act f =>
    obtain ⟨entries, s, answer, rfl, rfl⟩ := Operation.run_act_eq_some_iff.mp returned
    exact ⟨d', Operation.run_act_eq_some_iff.mpr ⟨entries, s, answer, rfl, rfl⟩, defaulted⟩

/-! ### Steps -/

def Point.ReadsVerdict (p : Point κ ε η σ τ) : Prop := p.Performs Operation.ReadsVerdict

/-- The same point with a verdict that was staged before all that was done. -/
structure Point.Defaulted (accepted : Bool) (p p' : Point κ ε η σ τ) : Prop where
  attempt : p'.attempt = p.attempt
  rest : p'.rest = p.rest
  decision : p.decision.Defaulted accepted p'.decision
  world : p'.world = p.world
  deeds : p'.deeds = .staged accepted :: p.deeds

/-- Nothing but the verdict tells two endings apart. -/
structure Ending.Matches (ending ending' : Ending κ ε η σ τ) : Prop where
  result : ending'.result = ending.result
  attempts : ending'.attempts = ending.attempts
  handlers : ending'.decision.handlers = ending.decision.handlers
  world : ending'.world = ending.world

section

variable {limit n n' : Nat} {reason : Interrupt ε} {d d' : Decision κ η} {w v : World σ τ} {fault : Fault ε}
  {handler : η} {p p' q : Point κ ε η σ τ} {ending : Ending κ ε η σ τ}

theorem Pends.defaulted (pends : Pends limit n reason d fault n')
    (staged : reason = .decided → d.verdict ≠ .undefined) : Pends limit n reason d' fault n' := by
  cases pends with
  | failed => exact .failed
  | unstaged nothing _ => exact absurd nothing (staged rfl)

variable [DecidableEq κ] [Failure ε κ] [Recorder κ τ] {respond : η → Fault ε → Routine κ ε η σ τ Option Empty}

theorem Recovers.defaulted (recovers : Recovers limit n d w reason handler fault n' v)
    (staged : reason = .decided → d.verdict ≠ .undefined) (defaulted : d.Defaulted accepted d') :
    Recovers limit n d' w reason handler fault n' v := by
  obtain ⟨pends, found, room⟩ := recovers
  rw [← defaulted.handlers] at found
  exact .intro (pends.defaulted staged) found room

theorem Concludes.defaulted (concludes : Concludes limit n d w reason ending)
    (staged : reason = .decided → d.verdict ≠ .undefined) (defaulted : d.Defaulted accepted d') :
    ∃ ending', Concludes limit n d' w reason ending' ∧ ending.Matches ending' := by
  cases concludes with
  | decided answered => exact ⟨_, .decided (defaulted.verdict_of_staged answered), rfl, rfl, defaulted.handlers, rfl⟩
  | unstaged nothing _ => exact absurd nothing (staged rfl)
  | unhandled pends absent =>
    rw [← defaulted.handlers] at absent
    exact ⟨_, .unhandled (pends.defaulted staged) absent, rfl, rfl, defaulted.handlers, rfl⟩
  | exhausted pends found full =>
    rw [← defaulted.handlers] at found
    exact ⟨_, .exhausted (pends.defaulted staged) found full, rfl, rfl, defaulted.handlers, rfl⟩

theorem Step.defaulted (step : Step respond limit p q) (unread : ¬ p.ReadsVerdict) (staged : ¬ p.FinalizesUnstaged)
    (defaulted : p.Defaulted accepted p') : ∃ q', Step respond limit p' q' ∧ q.Defaulted accepted q' := by
  obtain ⟨attempt, rest, decision, world, deeds⟩ := p'
  obtain ⟨rfl, rfl, defaulted, rfl, rfl⟩ := defaulted
  cases step with
  | call returned =>
    obtain ⟨e', returned', defaulted'⟩ := Operation.run_defaulted unread defaulted returned
    exact ⟨_, .call returned', rfl, rfl, defaulted', rfl, rfl⟩
  | recover recovers =>
    have recovers' := recovers.defaulted (fun decided nothing => staged ⟨congrArg _ decided, nothing⟩) defaulted
    exact ⟨_, .recover recovers', rfl, rfl, defaulted, rfl, rfl⟩

theorem Point.EndsIn.defaulted (ends : p.EndsIn limit ending) (staged : ¬ p.FinalizesUnstaged)
    (defaulted : p.Defaulted accepted p') : ∃ ending', p'.EndsIn limit ending' ∧ ending.Matches ending' := by
  obtain ⟨reason, stopped, concludes⟩ := ends
  have decided : reason = .decided → p.decision.verdict ≠ .undefined := fun same nothing =>
    staged ⟨stopped.trans (congrArg _ same), nothing⟩
  obtain ⟨ending', concludes', same⟩ := concludes.defaulted decided defaulted.decision
  rw [← defaulted.attempt, ← defaulted.world] at concludes'
  exact ⟨ending', ⟨reason, defaulted.rest.trans stopped, concludes'⟩, same⟩

/-- Where a body finalizes with nothing staged, the evaluation with the verdict ends in that verdict. -/
theorem Point.Defaulted.endsIn (defaulted : p.Defaulted accepted p') (unstaged : p.FinalizesUnstaged) (limit : Nat) :
    p'.EndsIn limit ⟨.ok accepted, p.attempt, p'.decision, p.world.record (.finalized accepted p.attempt)⟩ := by
  obtain ⟨stopped, nothing⟩ := unstaged
  rw [← defaulted.attempt, ← defaulted.world]
  have staged := defaulted.decision.verdict_of_unstaged nothing
  exact ⟨_, defaulted.rest.trans stopped, .decided staged⟩

omit [Failure ε κ] in
theorem Point.Stuck.defaulted (stuck : p.Stuck) (defaulted : p.Defaulted accepted p') : p'.Stuck := by
  obtain ⟨β, operation, next, waiting, never⟩ := stuck
  have same : p'.world.state = p.world.state := by rw [defaulted.world]
  exact ⟨β, operation, next, defaulted.rest.trans waiting, Operation.run_eq_none same never⟩

end

/-! ### Whole evaluations -/

section

variable [DecidableEq κ] [Failure ε κ] [Recorder κ τ] {respond : η → Fault ε → Routine κ ε η σ τ Option Empty}
  {evaluator : Evaluator} {routine : Routine κ ε η σ τ Option Empty} {w : World σ τ} {p : Point κ ε η σ τ}

/-- The points that an evaluation comes to before any body has finalized with nothing staged, and the one where that
happens for the first time. -/
def Evaluator.ReachesUnaided (evaluator : Evaluator) (respond : η → Fault ε → Routine κ ε η σ τ Option Empty)
    (routine : Routine κ ε η σ τ Option Empty) (w : World σ τ) : Point κ ε η σ τ → Prop :=
  Relation.ReflTransGen (fun p q => Step respond evaluator.limit p q ∧ ¬ p.FinalizesUnstaged) (.start routine w)

namespace Evaluator

theorem ReachesUnaided.reaches (reached : evaluator.ReachesUnaided respond routine w p) :
    evaluator.Reaches respond routine w p := by
  induction reached with
  | refl => exact .refl
  | tail _ step ih => exact ih.tail step.1

theorem Reaches.unaided_or (reached : evaluator.Reaches respond routine w p) :
    evaluator.ReachesUnaided respond routine w p ∨
      ∃ first, evaluator.ReachesUnaided respond routine w first ∧ first.FinalizesUnstaged := by
  induction reached with
  | refl => exact .inl .refl
  | @tail q _ _ step ih =>
    rcases ih with unaided | first
    · by_cases unstaged : q.FinalizesUnstaged
      · exact .inr ⟨q, unaided, unstaged⟩
      · exact .inl (unaided.tail ⟨step, unstaged⟩)
    · exact .inr first

theorem ReachesUnaided.defaulted (unread : ∀ p, evaluator.Reaches respond routine w p → ¬ p.ReadsVerdict)
    (reached : evaluator.ReachesUnaided respond routine w p) (accepted : Bool) :
    ∃ p', evaluator.Reaches respond (Routine.stage accepted >>= fun _ => routine) w p' ∧ p.Defaulted accepted p' := by
  induction reached with
  | refl => exact ⟨_, .single (.call rfl), rfl, rfl, ⟨Verdict.toBool?_ofBool accepted, rfl⟩, rfl, rfl⟩
  | tail reached step ih =>
    obtain ⟨p', reached', defaulted⟩ := ih
    obtain ⟨step, staged⟩ := step
    obtain ⟨q', step', defaulted⟩ := step.defaulted (unread _ (ReachesUnaided.reaches reached)) staged defaulted
    exact ⟨q', reached'.tail step', defaulted⟩

end Evaluator

/-- If no body reads the verdict, an evaluation with a verdict staged at the front goes through the same points until a
body finalizes with nothing staged. If none does, it has an end just when the evaluation without the verdict has one, and
the same. If one does, it ends where that happens for the first time, with the verdict as its answer and in the attempt
of that body. -/
theorem drive_stage_first (evaluator : Evaluator) (respond : η → Fault ε → Routine κ ε η σ τ Option Empty)
    (routine : Routine κ ε η σ τ Option Empty) (w : World σ τ) (accepted : Bool)
    (unread : ∀ p, evaluator.Reaches respond routine w p → ¬ p.ReadsVerdict) :
    let fronted := Routine.stage accepted >>= fun _ => routine
    (∀ p, evaluator.ReachesUnaided respond routine w p →
      ∃ p', evaluator.Reaches respond fronted w p' ∧ p.Defaulted accepted p') ∧
    ((∀ p, evaluator.Reaches respond routine w p → ¬ p.FinalizesUnstaged) →
      (evaluator.drive respond routine w = none → evaluator.drive respond fronted w = none) ∧
      ∀ ending, evaluator.drive respond routine w = some ending →
        ∃ ending', evaluator.drive respond fronted w = some ending' ∧ ending.Matches ending') ∧
    (∀ p, evaluator.Reaches respond routine w p → p.FinalizesUnstaged →
      ∃ first, evaluator.ReachesUnaided respond routine w first ∧ first.FinalizesUnstaged) ∧
    ∀ first, evaluator.ReachesUnaided respond routine w first → first.FinalizesUnstaged →
      ∃ first', evaluator.Reaches respond fronted w first' ∧ first.Defaulted accepted first' ∧
        evaluator.drive respond fronted w = some ⟨.ok accepted, first.attempt, first'.decision,
          first.world.record (.finalized accepted first.attempt)⟩ := by
  intro fronted
  have follows : ∀ p, evaluator.ReachesUnaided respond routine w p →
      ∃ p', evaluator.Reaches respond fronted w p' ∧ p.Defaulted accepted p' :=
    fun p unaided => unaided.defaulted unread accepted
  refine ⟨follows, fun staged => ?_, fun p reached unstaged => ?_, fun first unaided unstaged => ?_⟩
  · have unaided : ∀ p, evaluator.Reaches respond routine w p → evaluator.ReachesUnaided respond routine w p := by
      intro p reached
      rcases reached.unaided_or with unaided | ⟨first, unaided, unstaged⟩
      · exact unaided
      · exact absurd unstaged (staged first unaided.reaches)
    constructor
    · intro endless
      obtain ⟨p, reached, stuck⟩ := Evaluator.drive_eq_none_iff.mp endless
      obtain ⟨p', reached', defaulted⟩ := follows p (unaided p reached)
      exact Evaluator.drive_eq_none_iff.mpr ⟨p', reached', stuck.defaulted defaulted⟩
    · intro ending ended
      obtain ⟨p, reached, ends⟩ := Evaluator.drive_eq_some_iff.mp ended
      obtain ⟨p', reached', defaulted⟩ := follows p (unaided p reached)
      obtain ⟨ending', ends', same⟩ := ends.defaulted (staged p reached) defaulted
      exact ⟨ending', Evaluator.drive_eq_some_iff.mpr ⟨p', reached', ends'⟩, same⟩
  · rcases reached.unaided_or with unaided | first
    · exact ⟨p, unaided, unstaged⟩
    · exact first
  · obtain ⟨first', reached', defaulted⟩ := follows first unaided
    have ends := defaulted.endsIn unstaged evaluator.limit
    exact ⟨first', reached', defaulted, Evaluator.drive_eq_some_iff.mpr ⟨first', reached', ends⟩⟩

/-- A handler that finalizes with nothing staged gives the verdict from the front, in its own attempt; a failure that has
no handler is not changed by that verdict. -/
theorem drive_stage_first_recovering :
    let evaluator : Evaluator := ⟨⟨2⟩, by decide⟩
    let respond : Unit → Fault Script.Mishap → Routine String Script.Mishap Unit Script.Vars Script.Entry Option Empty :=
      fun _ _ => Routine.decide
    let failing := Routine.raise ⟨"net", 7⟩
    let recovering := Routine.onErr "net" () >>= fun _ => failing
    let start : Script.World := ⟨{}, []⟩
    (∃ ending, evaluator.drive respond (Routine.setAccept >>= fun _ => recovering) start = some ending ∧
      ending.result = .ok true ∧ ending.attempts = 2) ∧
    ∃ ending, evaluator.drive respond (Routine.setAccept >>= fun _ => failing) start = some ending ∧
      ending.result = .error (.raised ⟨"net", 7⟩) := by
  intro evaluator respond failing recovering start
  have plainly : ∀ handler fault, (respond handler fault).Avoids Operation.ReadsVerdict := fun _ _ => trivial
  constructor
  · have plain : recovering.Avoids Operation.ReadsVerdict := And.intro id fun _ => trivial
    have fronted := drive_stage_first evaluator respond recovering start true
      fun p reached => Point.not_performs (reached.avoids plain plainly)
    obtain ⟨first, unaided, unstaged, attempt⟩ : ∃ first, evaluator.ReachesUnaided respond recovering start first ∧
        first.FinalizesUnstaged ∧ first.attempt = 2 :=
      ⟨_, .tail (.single ⟨.call rfl, fun unstaged => nomatch unstaged.1⟩)
        ⟨.recover (.intro .failed rfl (by decide)), fun unstaged => nomatch unstaged.1⟩, ⟨rfl, rfl⟩, rfl⟩
    obtain ⟨first', _, _, ended⟩ := fronted.2.2.2 first unaided unstaged
    exact ⟨_, ended, rfl, attempt⟩
  · have plain : failing.Avoids Operation.ReadsVerdict := trivial
    have fronted := drive_stage_first evaluator respond failing start true
      fun p reached => Point.not_performs (reached.avoids plain plainly)
    obtain ⟨ending, ends, result⟩ : ∃ ending : Ending String Script.Mishap Unit Script.Vars Script.Entry,
        (Point.start failing start).EndsIn evaluator.limit ending ∧ ending.result = .error (.raised ⟨"net", 7⟩) :=
      ⟨_, ⟨_, rfl, .unhandled .failed rfl⟩, rfl⟩
    have staged : ∀ p, evaluator.Reaches respond failing start p → ¬ p.FinalizesUnstaged := by
      intro p reached unstaged
      rcases Relation.ReflTransGen.cases_head reached with rfl | ⟨q, step, _⟩
      · cases unstaged.1
      · exact ends.no_step step
    have ended : evaluator.drive respond failing start = some ending :=
      Evaluator.drive_eq_some_iff.mpr ⟨_, .refl, ends⟩
    obtain ⟨ending', ended', same⟩ := (fronted.2.1 staged).2 ending ended
    exact ⟨ending', ended', same.result.trans result⟩

end

end Adjudication
