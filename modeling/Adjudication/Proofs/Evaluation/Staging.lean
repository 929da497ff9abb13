import Adjudication.Proofs.Evaluation.BigStep
import Adjudication.Proofs.Evaluation.Course

/-!
# What stagings decide

The verdict is at every point of an evaluation the one that was staged last before that point, whichever body staged it
and however that body went on. `stagings_decide` says so, says which of the primitives stage what, and says that an
evaluation in which something was staged is no longer undecided when a body finalizes.
-/

namespace Adjudication

variable {κ ε η σ τ : Type}

/-! ### Stagings -/

def Deed.staging? : Deed κ ε η → Option Bool
  | .staged accepted => some accepted
  | _ => none

/-- The stagings among what was done, in order. -/
def stagings (deeds : List (Deed κ ε η)) : List Bool := deeds.filterMap Deed.staging?

def lastStaged (deeds : List (Deed κ ε η)) : Option Bool := (stagings deeds).getLast?

theorem stagings_append (deeds more : List (Deed κ ε η)) : stagings (deeds ++ more) = stagings deeds ++ stagings more :=
  List.filterMap_append

theorem mem_stagings {deeds : List (Deed κ ε η)} {accepted : Bool} :
    accepted ∈ stagings deeds ↔ .staged accepted ∈ deeds := by
  refine List.mem_filterMap.trans ⟨?_, fun done => ⟨_, done, rfl⟩⟩
  rintro ⟨deed, done, same⟩
  cases deed with
  | staged => cases same; exact done
  | registered | stopped | recovered => cases same

theorem lastStaged_eq_none_iff {deeds : List (Deed κ ε η)} :
    lastStaged deeds = none ↔ ∀ accepted, .staged accepted ∉ deeds := by
  rw [lastStaged, List.getLast?_eq_none_iff, List.eq_nil_iff_forall_not_mem]
  exact forall_congr' fun accepted => not_congr mem_stagings

theorem lastStaged_of_staged (deeds : List (Deed κ ε η)) (accepted : Bool) :
    lastStaged (deeds ++ [.staged accepted]) = some accepted := by
  rw [lastStaged, stagings_append]
  exact List.getLast?_concat

theorem lastStaged_of_unstaged {more : List (Deed κ ε η)} (none : stagings more = []) (deeds : List (Deed κ ε η)) :
    lastStaged (deeds ++ more) = lastStaged deeds := by
  rw [lastStaged, stagings_append, none, List.append_nil, lastStaged]

/-! ### The verdict -/

section

variable [DecidableEq κ] [Recorder κ τ] {d d' : Decision κ η} {w w' : World σ τ}

theorem Operation.verdict_eq {β : Type} {operation : Operation κ η σ τ Option β} {n : Nat} {given : β}
    (returned : operation.run n d w = some (given, d', w')) {deeds : List (Deed κ ε η)}
    (verdict : d.verdict.toBool? = lastStaged deeds) :
    d'.verdict.toBool? = lastStaged (deeds ++ operation.deeds) := by
  cases operation with
  | attempts | verdict | handlers | register =>
    cases returned
    rw [verdict, lastStaged_of_unstaged rfl]
  | stage accepted =>
    cases returned
    exact (Verdict.toBool?_ofBool accepted).trans (lastStaged_of_staged deeds accepted).symm
  | act f =>
    obtain ⟨entries, s, _, rfl, rfl⟩ := Operation.run_act_eq_some_iff.mp returned
    rw [verdict, lastStaged_of_unstaged rfl]

omit [DecidableEq κ] [Recorder κ τ] in
theorem Pends.reason_of_staged {limit n n' : Nat} {reason : Interrupt ε} {fault : Fault ε}
    (pends : Pends limit n reason d fault n') (staged : d.verdict ≠ .undefined) : reason = .failed fault := by
  cases pends with
  | failed => rfl
  | unstaged nothing => exact absurd nothing staged

variable [Failure ε κ] {respond : η → Fault ε → Routine κ ε η σ τ Option Empty} {evaluator : Evaluator}
  {routine : Routine κ ε η σ τ Option Empty} {limit : Nat} {p q : Point κ ε η σ τ} {ending : Ending κ ε η σ τ}

theorem Step.verdict_eq (step : Step respond limit p q) (verdict : p.decision.verdict.toBool? = lastStaged p.deeds) :
    q.decision.verdict.toBool? = lastStaged q.deeds := by
  cases step with
  | call returned => exact Operation.verdict_eq returned verdict
  | recover => exact verdict.trans (lastStaged_of_unstaged rfl _).symm

/-- At every point the verdict is the one that was staged last. -/
theorem Evaluator.Reaches.verdict_eq (reached : evaluator.Reaches respond routine w p) :
    p.decision.verdict.toBool? = lastStaged p.deeds := by
  induction reached with
  | refl => rfl
  | tail _ step ih => exact step.verdict_eq ih

theorem Evaluator.Reaches.verdict_eq_undefined_iff (reached : evaluator.Reaches respond routine w p) :
    p.decision.verdict = .undefined ↔ ∀ accepted, .staged accepted ∉ p.deeds := by
  rw [← Verdict.toBool?_eq_none_iff, reached.verdict_eq, lastStaged_eq_none_iff]

/-- Where something is staged, finalizing ends the evaluation with what was staged last. -/
theorem Point.endsIn_of_decided (verdict : p.decision.verdict.toBool? = lastStaged p.deeds)
    (staged : p.decision.verdict ≠ .undefined) (decided : p.rest = .stop .decided) :
    ∃ ending accepted, p.EndsIn limit ending ∧ ending.result = .ok accepted ∧ lastStaged p.deeds = some accepted := by
  cases answer : p.decision.verdict.toBool? with
  | none => exact absurd (Verdict.toBool?_eq_none_iff.mp answer) staged
  | some accepted =>
    have staged : p.decision.verdict = .ofBool accepted := Verdict.toBool?_eq_some_iff.mp answer
    exact ⟨_, accepted, ⟨_, decided, .decided staged⟩, rfl, verdict.symm.trans answer⟩

theorem Point.HandsTo.rest_of_staged {handler : η} {fault : Fault ε} {n : Nat}
    (hands : p.HandsTo limit handler fault n) (staged : p.decision.verdict ≠ .undefined) :
    p.rest = .stop (.failed fault) := by
  obtain ⟨reason, _, stopped, ⟨pends, _, _⟩, _⟩ := hands
  exact pends.reason_of_staged staged ▸ stopped

theorem Point.EndsIn.rest_of_staged {fault : Fault ε} (ends : p.EndsIn limit ending)
    (unhandled : ending.result = .error (.ofFault fault)) (staged : p.decision.verdict ≠ .undefined) :
    p.rest = .stop (.failed fault) := by
  obtain ⟨reason, stopped, concludes⟩ := ends
  obtain ⟨pends, _⟩ := concludes.pends unhandled
  exact pends.reason_of_staged staged ▸ stopped

theorem Point.EndsIn.lastStaged_eq {accepted : Bool} (verdict : p.decision.verdict.toBool? = lastStaged p.deeds)
    (ends : p.EndsIn limit ending) (answered : ending.result = .ok accepted) : lastStaged p.deeds = some accepted := by
  obtain ⟨_, _, concludes⟩ := ends
  cases concludes with
  | decided staged =>
    cases answered
    rw [← verdict, staged, Verdict.toBool?_ofBool]
  | unstaged | unhandled | exhausted => cases answered

end

/-! ### Primitives -/

/-- A body with a hole for a part of it: when the part is run there, what it does is what the body does. -/
structure Hole (κ ε η σ τ α : Type) where
  fill : Routine κ ε η σ τ Option α → Routine κ ε η σ τ Option Empty
  fill_call : ∀ {β : Type} (operation : Operation κ η σ τ Option β) (next : β → Routine κ ε η σ τ Option α),
    fill (.call operation next) = .call operation fun given => fill (next given)

namespace Hole

variable {α β : Type}

def whole : Hole κ ε η σ τ Empty := ⟨id, fun _ _ => rfl⟩

/-- The hole for a part that another one comes after. -/
def before (outer : Hole κ ε η σ τ β) (next : α → Routine κ ε η σ τ Option β) : Hole κ ε η σ τ α where
  fill x := outer.fill (x >>= next)
  fill_call operation rest := outer.fill_call operation fun given => rest given >>= next

/-- The hole for a part whose interrupt is swallowed. -/
def swallowed (outer : Hole κ ε η σ τ β) (next : Except (Interrupt ε) α → Routine κ ε η σ τ Option β) :
    Hole κ ε η σ τ α where
  fill x := outer.fill (x.observe >>= next)
  fill_call operation rest := outer.fill_call operation fun given => (rest given).observe >>= next

end Hole

/-- What a body can do that may stage a verdict. -/
inductive Primitive (ε σ τ : Type) where
  | setAccept
  | setReject
  | accept
  | reject
  | acceptThen (effect : Effect ε σ τ Option)
  | rejectThen (effect : Effect ε σ τ Option)
  | acceptIf (p : Predicate σ τ Option)
  | rejectIf (p : Predicate σ τ Option)
  | acceptIfThen (p : Predicate σ τ Option) (effect : Effect ε σ τ Option)
  | rejectIfThen (p : Predicate σ τ Option) (effect : Effect ε σ τ Option)
  | decideOn (p : Predicate σ τ Option)
  | decideOnThen (p : Predicate σ τ Option) (onAccept onReject : Effect ε σ τ Option)

namespace Primitive

def routine : Primitive ε σ τ → Routine κ ε η σ τ Option Unit
  | setAccept => Routine.setAccept
  | setReject => Routine.setReject
  | accept => Routine.never Routine.accept
  | reject => Routine.never Routine.reject
  | acceptThen effect => Routine.never (Routine.acceptThen effect)
  | rejectThen effect => Routine.never (Routine.rejectThen effect)
  | acceptIf p => Routine.acceptIf p
  | rejectIf p => Routine.rejectIf p
  | acceptIfThen p effect => Routine.acceptIfThen p effect
  | rejectIfThen p effect => Routine.rejectIfThen p effect
  | decideOn p => Routine.never (Routine.decideOn p)
  | decideOnThen p onAccept onReject => Routine.never (Routine.decideOnThen p onAccept onReject)

/-- What a primitive stages in a state; that of a question depends on its answer there, and on nothing else. -/
def stages (s : σ) : Primitive ε σ τ → List Bool
  | setAccept | accept | acceptThen _ => [true]
  | setReject | reject | rejectThen _ => [false]
  | acceptIf p | acceptIfThen p _ => if (p s).map Prod.fst = some true then [true] else []
  | rejectIf p | rejectIfThen p _ => if (p s).map Prod.fst = some true then [false] else []
  | decideOn p | decideOnThen p _ _ => ((p s).map Prod.fst).toList

end Primitive

section

variable [DecidableEq κ] [Recorder κ τ] [Failure ε κ] {respond : η → Fault ε → Routine κ ε η σ τ Option Empty}
  {limit : Nat} {α β : Type}

/-- By steps of a part alone, the evaluation comes from a point where the part is to be run to one where something of it
is left. -/
inductive Hole.Leads (respond : η → Fault ε → Routine κ ε η σ τ Option Empty) (limit : Nat) (hole : Hole κ ε η σ τ α) :
    Point κ ε η σ τ → Routine κ ε η σ τ Option α → Point κ ε η σ τ → Routine κ ε η σ τ Option α → Prop where
  | refl {p part} (here : p.rest = hole.fill part) : Leads respond limit hole p part p part
  | call {p q r left β given} {operation : Operation κ η σ τ Option β} {next : β → Routine κ ε η σ τ Option α}
      (here : p.rest = hole.fill (.call operation next)) (step : Step respond limit p q)
      (after : Leads respond limit hole q (next given) r left) :
      Leads respond limit hole p (.call operation next) r left

/-- A part that is run from a point comes to where it has returned or has stopped, with these stagings after the earlier
ones, unless an operation of the part does not return. -/
def Point.Stages (respond : η → Fault ε → Routine κ ε η σ τ Option Empty) (limit : Nat) (p : Point κ ε η σ τ)
    (hole : Hole κ ε η σ τ α) (part : Routine κ ε η σ τ Option α) (staged : List Bool) : Prop :=
  ∃ q left, hole.Leads respond limit p part q left ∧
    match left with
    | .done _ | .stop _ => stagings q.deeds = stagings p.deeds ++ staged
    | .call _ _ => q.Stuck

variable {p q : Point κ ε η σ τ} {hole : Hole κ ε η σ τ α} {staged : List Bool}

namespace Point

theorem Stages.of_step {given : β} {operation : Operation κ η σ τ Option β} {next : β → Routine κ ε η σ τ Option α}
    (here : p.rest = hole.fill (.call operation next)) (step : Step respond limit p q) {first : List Bool}
    (added : stagings q.deeds = stagings p.deeds ++ first) (rest : q.Stages respond limit hole (next given) staged) :
    p.Stages respond limit hole (.call operation next) (first ++ staged) := by
  obtain ⟨r, left, leads, ended⟩ := rest
  refine ⟨r, left, .call here step leads, ?_⟩
  cases left with
  | done | stop =>
    refine ended.trans ?_
    rw [added, List.append_assoc]
  | call => exact ended

theorem stages_of_ended (outcome : Except (Interrupt ε) α) (ended : p.rest = hole.fill (.resumeFrom outcome)) :
    p.Stages respond limit hole (.resumeFrom outcome) [] := by
  refine ⟨p, _, .refl ended, ?_⟩
  cases outcome <;> exact (List.append_nil _).symm

theorem stages_stage {accepted : Bool} {next : Unit → Routine κ ε η σ τ Option α}
    (here : p.rest = hole.fill (.call (.stage accepted) next))
    (after : ∀ q : Point κ ε η σ τ, q.rest = hole.fill (next ()) → q.Stages respond limit hole (next ()) staged) :
    p.Stages respond limit hole (.call (.stage accepted) next) (accepted :: staged) := by
  obtain ⟨n, rest, d, w, done⟩ := p
  cases here.trans (hole.fill_call _ _)
  have added := stagings_append done [.staged accepted]
  exact Stages.of_step here (.call rfl) added (after _ rfl)

theorem stages_act {f : Act σ τ Option β} {next : β → Routine κ ε η σ τ Option α}
    (here : p.rest = hole.fill (.call (.act f) next))
    (after : ∀ given, (f p.world.state).map Prod.fst = some given → ∀ q : Point κ ε η σ τ,
      q.rest = hole.fill (next given) → q.Stages respond limit hole (next given) staged) :
    p.Stages respond limit hole (.call (.act f) next) staged := by
  obtain ⟨n, rest, d, w, done⟩ := p
  cases here.trans (hole.fill_call _ _)
  cases answer : f w.state with
  | none =>
    exact ⟨_, _, .refl here, _, _, _, rfl, Operation.run_act_eq_none_iff.mpr answer⟩
  | some out =>
    obtain ⟨given, entries, s⟩ := out
    have returned : (Operation.act f).run n d w = some (given, d, w.after entries s) :=
      Operation.run_act_eq_some_iff.mpr ⟨entries, s, answer, rfl, rfl⟩
    have answered : (f w.state).map Prod.fst = some given := by rw [answer]; rfl
    have added := stagings_append done []
    exact Stages.of_step here (.call returned) added (after given answered _ rfl)

theorem stages_finalize {hole : Hole κ ε η σ τ Unit} {accepted : Bool} {effect : Effect ε σ τ Option}
    (here : p.rest = hole.fill (.never (.finalize accepted effect))) :
    p.Stages respond limit hole (.never (.finalize accepted effect)) [accepted] := by
  refine stages_stage here fun q here => stages_act here fun outcome _ r here => ?_
  cases outcome with
  | ok => exact stages_of_ended (.error .decided) here
  | error failure => exact stages_of_ended (.error (.failed (.raised failure))) here

theorem stages_finalizeIf {hole : Hole κ ε η σ τ Unit} {accepted : Bool} {effect : Effect ε σ τ Option}
    {f : Predicate σ τ Option} :
    let part := .act f >>= fun holds => if holds then .never (.finalize accepted effect) else pure ()
    p.rest = hole.fill part →
      p.Stages respond limit hole part (if (f p.world.state).map Prod.fst = some true then [accepted] else []) := by
  intro part here
  refine stages_act here fun holds answer q here => ?_
  rw [answer]
  cases holds with
  | true => exact stages_finalize here
  | false => exact stages_of_ended (.ok ()) here

theorem stages_decideOnThen {hole : Hole κ ε η σ τ Unit} {f : Predicate σ τ Option}
    {onAccept onReject : Effect ε σ τ Option}
    (here : p.rest = hole.fill (.never (.decideOnThen f onAccept onReject))) :
    p.Stages respond limit hole (.never (.decideOnThen f onAccept onReject))
      ((f p.world.state).map Prod.fst).toList := by
  refine stages_act here fun answer answered q here => ?_
  rw [answered]
  cases answer with
  | true => exact stages_finalize here
  | false => exact stages_finalize here

/-- A primitive stages its verdict before its effect is performed, so however that ends. -/
theorem stages_primitive {hole : Hole κ ε η σ τ Unit} {primitive : Primitive ε σ τ}
    (here : p.rest = hole.fill primitive.routine) :
    p.Stages respond limit hole primitive.routine (primitive.stages p.world.state) := by
  cases primitive with
  | setAccept | setReject => exact stages_stage here fun q here => stages_of_ended (.ok ()) here
  | accept | reject | acceptThen | rejectThen => exact stages_finalize here
  | acceptIf | rejectIf | acceptIfThen | rejectIfThen => exact stages_finalizeIf here
  | decideOn | decideOnThen => exact stages_decideOnThen here

end Point

/-- What is done outside, an evaluation of its own among it, stages nothing. -/
theorem Step.act_unstaged {f : Act σ τ Option β} {next : β → Routine κ ε η σ τ Option Empty}
    (step : Step respond limit p q) (waiting : p.rest = .call (.act f) next) :
    q.decision = p.decision ∧ q.deeds = p.deeds := by
  cases step with
  | call returned =>
    cases waiting
    obtain ⟨_, _, _, same, _⟩ := Operation.run_act_eq_some_iff.mp returned
    exact ⟨same, List.append_nil _⟩
  | recover => cases waiting

/-- At every point of an evaluation the verdict is what was staged last, and undefined just if nothing was staged
before. A primitive stages its verdict wherever it is run, also in a part whose interrupt is swallowed and however its
effect ends; what is done outside stages nothing. Once something is staged, finalizing always ends the evaluation with
an answer, so that only a body which itself fails as undefined leads to the handler for that or to that error. The
answer of an evaluation is what was staged last in it. -/
theorem stagings_decide (evaluator : Evaluator) (respond : η → Fault ε → Routine κ ε η σ τ Option Empty)
    (routine : Routine κ ε η σ τ Option Empty) (w : World σ τ) :
    (∀ p, evaluator.Reaches respond routine w p →
      p.decision.verdict.toBool? = lastStaged p.deeds ∧
      (p.decision.verdict = .undefined ↔ ∀ accepted, .staged accepted ∉ p.deeds) ∧
      (∀ (hole : Hole κ ε η σ τ Unit) (primitive : Primitive ε σ τ), p.rest = hole.fill primitive.routine →
        p.Stages respond evaluator.limit hole primitive.routine (primitive.stages p.world.state)) ∧
      (∀ (β : Type) (f : Act σ τ Option β) next q, p.rest = .call (.act f) next →
        Step respond evaluator.limit p q → q.decision = p.decision ∧ q.deeds = p.deeds) ∧
      ∀ accepted, .staged accepted ∈ p.deeds → ∀ q, Relation.ReflTransGen (Step respond evaluator.limit) p q →
        (q.rest = .stop .decided → ∃ ending answer, q.EndsIn evaluator.limit ending ∧
          evaluator.drive respond routine w = some ending ∧ ending.result = .ok answer ∧
          lastStaged q.deeds = some answer) ∧
        (∀ handler n, q.HandsTo evaluator.limit handler .undefined n → q.rest = .stop (.failed .undefined) ∧
          ∃ w', w'.state = q.world.state ∧ evaluator.drive respond routine w =
            Evaluator.complete respond evaluator.limit (respond handler .undefined) n q.decision w') ∧
        ∀ ending, q.EndsIn evaluator.limit ending → ending.result = .error .undefined →
          q.rest = .stop (.failed .undefined) ∧ evaluator.drive respond routine w = some ending) ∧
    ∀ ending, evaluator.drive respond routine w = some ending →
      ∃ last, evaluator.Reaches respond routine w last ∧ last.EndsIn evaluator.limit ending ∧
        (∀ accepted, ending.result = .ok accepted → lastStaged last.deeds = some accepted) ∧
        (ending.result = .error .undefined →
          last.rest = .stop (.failed .undefined) ∨ ∀ accepted, .staged accepted ∉ last.deeds) := by
  constructor
  · intro p reached
    refine ⟨reached.verdict_eq, reached.verdict_eq_undefined_iff, fun hole primitive here => ?_,
      fun β f next q waiting step => step.act_unstaged waiting, fun accepted staged q steps => ?_⟩
    · exact Point.stages_primitive here
    · have later : evaluator.Reaches respond routine w q := reached.trans steps
      have kept : .staged accepted ∈ q.deeds := (deeds_prefix_of_steps steps).subset staged
      have decided : q.decision.verdict ≠ .undefined := fun nothing =>
        later.verdict_eq_undefined_iff.mp nothing accepted kept
      refine ⟨fun stopped => ?_, fun handler n hands => ⟨hands.rest_of_staged decided, later.drive_of_handsTo hands⟩,
        fun ending ends undefined => ⟨?_, later.drive_of_endsIn ends⟩⟩
      · obtain ⟨ending, answer, ends, answered, last⟩ := Point.endsIn_of_decided later.verdict_eq decided stopped
        exact ⟨ending, answer, ends, later.drive_of_endsIn ends, answered, last⟩
      · exact ends.rest_of_staged (show ending.result = .error (.ofFault .undefined) from undefined) decided
  · intro ending ended
    obtain ⟨last, reached, ends⟩ := Evaluator.drive_eq_some_iff.mp ended
    refine ⟨last, reached, ends, fun accepted => ends.lastStaged_eq reached.verdict_eq, fun undefined => ?_⟩
    by_cases nothing : last.decision.verdict = .undefined
    · exact .inr (reached.verdict_eq_undefined_iff.mp nothing)
    · exact .inl (ends.rest_of_staged (show ending.result = .error (.ofFault .undefined) from undefined) nothing)

/-- Accepting with an effect that fails, in a part that is swallowed, takes the place of a rejection staged before. -/
theorem stagings_decide_swallowed :
    let evaluator : Evaluator := ⟨⟨3⟩, by decide⟩
    let respond : Unit → Fault Script.Mishap → Routine String Script.Mishap Unit Script.Vars Script.Entry Option Empty :=
      fun _ _ => Routine.decide
    let accepting : Primitive Script.Mishap Script.Vars Script.Entry :=
      .acceptThen fun vars => some (.error ⟨"io", 2⟩, [.effect], vars)
    let hole : Hole String Script.Mishap Unit Script.Vars Script.Entry Unit :=
      (Hole.whole.swallowed fun _ => Routine.decide).before fun _ => Routine.setReject
    let routine := Routine.setReject >>= fun _ => hole.fill accepting.routine
    let start : Script.World := ⟨{}, []⟩
    (∃ p, evaluator.Reaches respond routine start p ∧ p.decision.verdict = .reject ∧
      p.Stages respond evaluator.limit hole accepting.routine [true]) ∧
    ∃ ending last, evaluator.drive respond routine start = some ending ∧ ending.result = .ok true ∧
      evaluator.Reaches respond routine start last ∧ lastStaged last.deeds = some true := by
  intro evaluator respond accepting hole routine start
  obtain ⟨held, ends⟩ := stagings_decide evaluator respond routine start
  constructor
  · obtain ⟨p, reached, verdict, here⟩ : ∃ p, evaluator.Reaches respond routine start p ∧
        p.decision.verdict = .reject ∧ p.rest = hole.fill accepting.routine :=
      ⟨_, .single (.call rfl), rfl, rfl⟩
    obtain ⟨_, _, primitives, _⟩ := held p reached
    exact ⟨p, reached, verdict, primitives hole accepting here⟩
  · obtain ⟨p, reached, stopped, staged, verdict⟩ : ∃ p, evaluator.Reaches respond routine start p ∧
        p.rest = .stop .decided ∧ .staged true ∈ p.deeds ∧ lastStaged p.deeds = some true :=
      ⟨_, .tail (.tail (.single (.call rfl)) (.call rfl)) (.call rfl), rfl, .tail _ (.head _), rfl⟩
    obtain ⟨_, _, _, _, later⟩ := held p reached
    obtain ⟨ending, answer, _, ended, result, last⟩ := (later true staged p .refl).1 stopped
    cases last.symm.trans verdict
    obtain ⟨last, reached, _, same, _⟩ := ends ending ended
    exact ⟨ending, last, ended, result, reached, same true result⟩

end

end Adjudication
