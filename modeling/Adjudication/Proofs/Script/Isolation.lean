import Adjudication.Proofs.Evaluation.History
import Adjudication.Proofs.Script.Depth

/-!
# Evaluations inside evaluations

A step can run a whole evaluation of its own, in the course of which others are run. `Run.Leads` is what a run leads to
when nothing encloses it. `evaluations_isolated` says that a run inside an evaluation leads to just that, whatever that
evaluation is and however far it came, and that it leaves of itself nothing but the variables and what it wrote.
-/

namespace Adjudication.Script

/-- What a run leads to by itself from given variables, if it is followed deep enough. -/
def Run.Leads (definitions : Definitions) (run : Run) (vars : Vars) (report : Report Answer) : Prop :=
  ∃ depth, run.report? (Host.ofDepth definitions depth) vars = some report

/-- Runs by themselves, one after the other, each from the variables that the one before it left. -/
inductive Successive (definitions : Definitions) : Vars → List Run → List (Report Answer) → Prop where
  | nil (vars : Vars) : Successive definitions vars [] []
  | cons {vars run runs report reports} (leads : Run.Leads definitions run vars report)
      (rest : Successive definitions report.vars runs reports) :
      Successive definitions vars (run :: runs) (report :: reports)

/-- The running body comes to a run of its own next, followed to a depth; `next` is what it does with the result. -/
def StartsRun (definitions : Definitions) (depth : Nat) (run : Run) (next : Result → Play Empty)
    (p : Point String Mishap Block Vars Entry) : Prop :=
  p.rest = .call (.act ((Host.ofDepth definitions depth).evaluation run)) next

/-- The same point after a run that led to a report: all that was decided, registered, counted and done is as before. -/
def afterRun (next : Result → Play Empty) (report : Report Answer) (p : Point String Mishap Block Vars Entry) :
    Point String Mishap Block Vars Entry :=
  { p with rest := next report.result, world := p.world.after report.trace report.vars }

/-- How a step that ran an evaluation ends: with the failure of that evaluation, if it is to be raised again. -/
def reraised (raises : Bool) : Result → Except (Interrupt Mishap) Unit
  | .error (.ended (.raised mishap)) => if raises then .error (.failed (.raised mishap)) else .ok ()
  | _ => .ok ()

section

variable {definitions : Definitions} {run : Run} {vars : Vars} {report other : Report Answer} {depth depth' : Nat}

theorem Run.Leads.unique (leads : run.Leads definitions vars report) (also : run.Leads definitions vars other) :
    other = report := by
  obtain ⟨depth, ended⟩ := leads
  obtain ⟨depth', ended'⟩ := also
  have first := report?_mono (Nat.le_max_left depth depth') ended
  have second := report?_mono (Nat.le_max_right depth depth') ended'
  exact Option.some.inj (second.symm.trans first)

theorem Host.evaluation_of_report? (ended : run.report? (Host.ofDepth definitions depth) vars = some report)
    (deeper : depth < depth') :
    (Host.ofDepth definitions depth').evaluation run vars = some (report.result, report.trace, report.vars) := by
  obtain ⟨k, rfl⟩ : ∃ k, depth' = k + 1 := ⟨depth' - 1, by omega⟩
  rw [evaluation_eq_report?, Run.report?_mono (Nat.le_of_lt_succ deeper) ended]
  rfl

theorem Run.leads_of_evaluation {result : Result} {trace : List Entry} {left : Vars}
    (returned : (Host.ofDepth definitions depth).evaluation run vars = some (result, trace, left)) :
    run.Leads definitions vars ⟨trace, result, left⟩ := by
  cases depth with
  | zero => cases returned
  | succ depth =>
    rw [Host.evaluation_eq_report?] at returned
    obtain ⟨report, ended, same⟩ := Option.map_eq_some_iff.mp returned
    cases same
    exact ⟨depth, ended⟩

end

/-! ### Inside another evaluation -/

section

variable {definitions : Definitions} {run : Run} {report : Report Answer} {depth depth' limit : Nat}
  {next : Result → Play Empty} {respond : Block → Fault Mishap → Play Empty} {routine : Play Empty} {w : World}
  {evaluator : Evaluator} {p q : Point String Mishap Block Vars Entry}

/-- An evaluation goes on from a run inside it only with what that run leads to by itself. -/
theorem leads_of_step (starts : StartsRun definitions depth run next p) (step : Adjudication.Step respond limit p q) :
    ∃ report, run.Leads definitions p.world.state report ∧ q = afterRun next report p := by
  obtain ⟨n, rest, d, w, deeds⟩ := p
  cases starts
  cases step with
  | call returned =>
    obtain ⟨trace, left, answer, rfl, rfl⟩ := Operation.run_act_eq_some_iff.mp returned
    refine ⟨_, Run.leads_of_evaluation answer, ?_⟩
    simp [afterRun, Operation.deeds]

/-- An evaluation does go on from a run inside it that leads to a report by itself. -/
theorem step_of_report? (starts : StartsRun definitions depth' run next p)
    (ended : run.report? (Host.ofDepth definitions depth) p.world.state = some report) (deeper : depth < depth') :
    Adjudication.Step respond limit p (afterRun next report p) := by
  obtain ⟨n, rest, d, w, deeds⟩ := p
  cases starts
  exact .act (Host.evaluation_of_report? ended deeper)

theorem stuck_of_no_report (starts : StartsRun definitions depth run next p)
    (never : ∀ report, ¬ run.Leads definitions p.world.state report) : p.Stuck := by
  refine ⟨Result, _, next, starts, Operation.run_act_eq_none_iff.mpr ?_⟩
  cases returned : (Host.ofDepth definitions depth).evaluation run p.world.state with
  | none => rfl
  | some out => exact absurd (Run.leads_of_evaluation returned) (never _)

/-- Where an evaluation goes on after a run, it does what it would do in the same decision and attempt had nothing been
written before. -/
theorem drive_afterRun (reached : evaluator.Reaches respond routine w p)
    (step : Adjudication.Step respond evaluator.limit p (afterRun next report p)) :
    evaluator.drive respond routine w =
      (·.onto (p.world.after report.trace report.vars)) <$>
        Evaluator.complete respond evaluator.limit (next report.result) p.attempt p.decision { state := report.vars } := by
  have going := Evaluator.Reaches.drive_eq (reached.tail step)
  have shifted := Evaluator.complete_onto respond evaluator.limit (next report.result) p.attempt p.decision
    { state := report.vars } (p.world.after report.trace report.vars)
  exact going.trans shifted

end

/-- The step that runs an evaluation, in any decision and as any attempt. -/
theorem Step.run_nested {definitions : Definitions} {depth depth' : Nat} {form : Form} {ceiling : Option UInt32}
    {routine : Block} {report : Report Answer} {w : World}
    (ended : Run.report? (Host.ofDepth definitions depth) ⟨form, ceiling, routine⟩ w.state = some report)
    (deeper : depth < depth') (raises : Bool) (received : Option Mishap) (n : Nat) (d : Decision String Block) :
    ((Step.nested form ceiling routine raises).play (Host.ofDepth definitions depth') received).run n d w =
      some (reraised raises report.result, d, w.after (report.trace ++ [.nested report.result]) report.vars) := by
  have answer := Host.evaluation_of_report? ended deeper
  obtain ⟨trace, result, vars⟩ := report
  simp only [Step.play, Routine.run_bind, Routine.run_act, Routine.run_write, answer]
  rw [← World.after_after w trace _ vars]
  rcases result with (refused | undefined | limit | mishap) | answered
  case error.ended.raised => cases raises <;> rfl
  all_goals rfl

theorem session_mono {definitions : Definitions} {depth depth' : Nat} {runs : List Run} {vars : Vars}
    {reports : List (Report Answer)} (deeper : depth ≤ depth')
    (ended : session (Host.ofDepth definitions depth) runs vars = some reports) :
    session (Host.ofDepth definitions depth') runs vars = some reports := by
  induction runs generalizing vars reports with
  | nil => exact ended
  | cons run runs ih =>
    rw [session_cons] at ended ⊢
    obtain ⟨report, reported, ended⟩ := Option.bind_eq_some_iff.mp ended
    obtain ⟨rest, later, same⟩ := Option.map_eq_some_iff.mp ended
    rw [Run.report?_mono deeper reported]
    simp [ih later, same]

/-- A session is its runs, each by itself. -/
theorem session_iff_successive {definitions : Definitions} {runs : List Run} {vars : Vars}
    {reports : List (Report Answer)} :
    (∃ depth, session (Host.ofDepth definitions depth) runs vars = some reports) ↔
      Successive definitions vars runs reports := by
  constructor
  · rintro ⟨depth, ended⟩
    induction runs generalizing vars reports with
    | nil =>
      cases ended
      exact .nil vars
    | cons run runs ih =>
      rw [session_cons] at ended
      obtain ⟨report, reported, ended⟩ := Option.bind_eq_some_iff.mp ended
      obtain ⟨rest, later, rfl⟩ := Option.map_eq_some_iff.mp ended
      exact .cons ⟨depth, reported⟩ (ih later)
  · intro successive
    induction successive with
    | nil => exact ⟨0, rfl⟩
    | cons leads _ ih =>
      obtain ⟨depth, reported⟩ := leads
      obtain ⟨depth', ended⟩ := ih
      refine ⟨max depth depth', ?_⟩
      rw [session_cons, Run.report?_mono (Nat.le_max_left depth depth') reported]
      simp [session_mono (Nat.le_max_right depth depth') ended]

/-- A run has one report, whatever encloses it. Inside an evaluation of any kind, which itself may be inside others, and
at any point of it, a run leads to what it leads to by itself from the variables there: the evaluation goes on with just
that report, to the point where it was with only the variables changed, and from there as it would without the run; it
does not go on if the run leads to nothing. The step that starts a run raises nothing but the failure that the run ended
with. The runs of a session are each by itself too. -/
theorem evaluations_isolated (definitions : Definitions) :
    (∀ (run : Run) vars report other,
      run.Leads definitions vars report → run.Leads definitions vars other → other = report) ∧
    (∀ (evaluator : Evaluator) respond routine w p depth run next,
      evaluator.Reaches respond routine w p → StartsRun definitions depth run next p →
      (∀ q, Adjudication.Step respond evaluator.limit p q →
        ∃ report, run.Leads definitions p.world.state report ∧ q = afterRun next report p) ∧
      (∀ depth' report, depth' < depth →
        run.report? (Host.ofDepth definitions depth') p.world.state = some report →
        evaluator.Reaches respond routine w (afterRun next report p) ∧
        evaluator.drive respond routine w =
          (·.onto (p.world.after report.trace report.vars)) <$>
            Evaluator.complete respond evaluator.limit (next report.result) p.attempt p.decision
              { state := report.vars }) ∧
      ((∀ report, ¬ run.Leads definitions p.world.state report) → evaluator.drive respond routine w = none)) ∧
    (∀ depth depth' form ceiling routine report w, depth' < depth →
      Run.report? (Host.ofDepth definitions depth') ⟨form, ceiling, routine⟩ w.state = some report →
      ∀ raises received n d,
        ((Step.nested form ceiling routine raises).play (Host.ofDepth definitions depth) received).run n d w =
          some (reraised raises report.result, d, w.after (report.trace ++ [.nested report.result]) report.vars)) ∧
    ∀ runs vars reports, (∃ depth, session (Host.ofDepth definitions depth) runs vars = some reports) ↔
      Successive definitions vars runs reports := by
  refine ⟨fun run vars report other leads also => leads.unique also,
    fun evaluator respond routine w p depth run next reached starts => ⟨fun q step => leads_of_step starts step,
      fun depth' report deeper ended => ?_, fun never => ?_⟩,
    fun depth depth' form ceiling routine report w deeper ended raises received n d =>
      Step.run_nested ended deeper raises received n d,
    fun runs vars reports => session_iff_successive⟩
  · have step : Adjudication.Step respond evaluator.limit p (afterRun next report p) :=
      step_of_report? starts ended deeper
    exact ⟨reached.tail step, drive_afterRun reached step⟩
  · exact Evaluator.drive_eq_none_iff.mpr ⟨p, reached, stuck_of_no_report starts never⟩

/-- A handler runs an evaluation that rejects by a block with a name. That evaluation ends in its rejection, and the
handler goes on in its second attempt, with the acceptance that was staged before and its own handler in the table. -/
theorem evaluations_isolated_recovering :
    let definitions : Definitions := [("inner", .next .setReject (.next .decide .done))]
    let inner : Run := ⟨.decide, some 5, .named "inner"⟩
    let body : Block := .next (.nested .decide (some 5) (.named "inner") false) .done
    let evaluator : Evaluator := ⟨⟨3⟩, by decide⟩
    let respond := Block.respond (Host.ofDepth definitions 2)
    let routine : Play Empty :=
      Routine.setAccept >>= fun _ => Routine.onErr "net" body >>= fun _ => Routine.raise ⟨"net", 7⟩
    let start : World := ⟨{}, []⟩
    ∃ (p q : Point String Mishap Block Vars Entry) (report : Report Answer),
      inner.Leads definitions p.world.state report ∧ report.result = .ok (.boolean false) ∧
      evaluator.Reaches respond routine start q ∧ q.attempt = 2 ∧ q.decision.verdict = .accept ∧
      q.decision.handlers.find? (.raised "net") = some body ∧ q.world.trace = p.world.trace ++ report.trace := by
  intro definitions inner body evaluator respond routine start
  obtain ⟨⟨n, rest, d, w, deeds⟩, failed, attempt, verdict, handler, handling⟩ :
      ∃ p : Point String Mishap Block Vars Entry,
      evaluator.Reaches respond routine start p ∧ p.attempt = 2 ∧ p.decision.verdict = .accept ∧
      p.decision.handlers.find? (.raised "net") = some body ∧ p.rest = respond body (.raised ⟨"net", 7⟩) :=
    ⟨_, .tail (.tail (.single (.call rfl)) (.call rfl)) (.recover (.intro .failed rfl (by decide))), rfl, rfl, rfl, rfl⟩
  cases handling
  obtain ⟨p, next, reached, starts, same⟩ : ∃ p next, evaluator.Reaches respond routine start p ∧
      StartsRun definitions 2 inner next p ∧ p.attempt = n ∧ p.decision = d :=
    ⟨_, _, .tail (.tail failed (.act rfl)) (.act rfl), rfl, rfl, rfl⟩
  obtain ⟨ending, driven, result⟩ : ∃ ending : Finish,
      Evaluator.drive ⟨⟨5⟩, by decide⟩ (Block.respond (Host.ofDepth definitions 1))
        (inner.routine.routine (Host.ofDepth definitions 1)) { state := p.world.state } = some ending ∧
      ending.result = .ok false :=
    ⟨_, Evaluates.complete_eq (.last rfl (.decided rfl)), rfl⟩
  obtain ⟨report, ended, answer⟩ : ∃ report : Report Answer,
      inner.report? (Host.ofDepth definitions 1) p.world.state = some report ∧ report.result = .ok (.boolean false) := by
    have made : inner.form.evaluator inner.ceiling = .ok ⟨⟨5⟩, by decide⟩ := rfl
    have concluded : (inner.form.conclude ending).1 = .ok (.boolean false) := by
      rw [Form.conclude, result]
    rw [Run.report?, Run.perform_of_accepted made, driven]
    exact ⟨_, rfl, concluded⟩
  obtain ⟨_, isolated, _⟩ := evaluations_isolated definitions
  obtain ⟨_, goes_on, _⟩ := isolated evaluator respond routine start p 2 inner next reached starts
  obtain ⟨reached', _⟩ := goes_on 1 report (by decide) ended
  obtain ⟨rfl, rfl⟩ := same
  exact ⟨p, afterRun next report p, report, ⟨1, ended⟩, answer, reached', attempt, verdict, handler,
    World.trace_after _ _ _⟩

end Adjudication.Script
