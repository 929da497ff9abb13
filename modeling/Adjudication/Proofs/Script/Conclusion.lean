import Adjudication.Script.Session

/-!
# How a run of a script ends

A run drives its routine, and then says in words or as a truth value how that ended. `Run.perform_of_accepted` and
`Run.perform_of_refused` say what is left to be known of a run when the ending of its evaluation is known, and
`session_cons` that a session is its runs.
-/

namespace Adjudication.Script

@[simp] theorem mapError_ok {ε ε' α : Type} (f : ε → ε') (a : α) : (Except.ok a).mapError f = .ok a := rfl

theorem mapError_error {ε ε' α : Type} (f : ε → ε') (e : ε) :
    (Except.error e : Except ε α).mapError f = .error (f e) := rfl

abbrev Finish := Ending String Mishap Block Vars Entry

/-- What a run makes of the end of its evaluation: its callback is called for a verdict if it has callbacks, and an
error is passed on. -/
def Form.conclude (form : Form) (ending : Finish) : Result × World :=
  match ending.result with
  | .error e => (.error (.ended e), ending.world)
  | .ok accepted =>
    match form with
    | .evaluate | .evaluateByDefault =>
      (.ok (.word accepted), ending.world.after [.callback accepted] ending.world.state)
    | .decide | .decideByDefault => (.ok (.boolean accepted), ending.world)

/-- The evaluator that is asked; the default one, if none is to be set up. -/
def Form.evaluator (form : Form) (ceiling : Option UInt32) : Except ConfigError Evaluator :=
  match form with
  | .evaluate | .decide => evaluatorOf ceiling
  | .evaluateByDefault | .decideByDefault => .ok default

/-- An answer as the result of its run. -/
def Result.told (answer : Except (DecisionError Mishap) Answer × World) : Result × World :=
  (answer.1.mapError RunError.ended, answer.2)

namespace Form

variable {form : Form} {ceiling : Option UInt32} {evaluator : Evaluator} {e : ConfigError}

theorem told_evaluate (evaluator : Evaluator) (host : Host) (routine : Play Empty) (w : World) :
    Result.told <$> evaluator.evaluate (Block.respond host) (answerInWords true) (answerInWords false) routine w =
      conclude .evaluate <$> evaluator.drive (Block.respond host) routine w := by
  simp only [Evaluator.evaluate, map_eq_pure_bind, bind_assoc]
  refine bind_congr fun ending => ?_
  cases result : ending.result with
  | error e => simp [conclude, result, Result.told, mapError_error]
  | ok accepted => cases accepted <;> simp [conclude, result, answerInWords, Result.told]

theorem told_decide (evaluator : Evaluator) (host : Host) (routine : Play Empty) (w : World) :
    Result.told <$> truth <$> evaluator.decide (Block.respond host) routine w =
      conclude .decide <$> evaluator.drive (Block.respond host) routine w := by
  simp only [Evaluator.decide, Evaluator.evaluate, map_eq_pure_bind, bind_assoc]
  refine bind_congr fun ending => ?_
  cases result : ending.result with
  | error e => simp [conclude, result, truth, Result.told, Except.map, mapError_error]
  | ok accepted => cases accepted <;> simp [conclude, result, truth, Result.told, Except.map, World.after]

theorem ask_of_accepted (accepted : form.evaluator ceiling = .ok evaluator) (host : Host) (routine : Play Empty)
    (w : World) :
    ∃ asked, form.ask host ceiling routine w = .ok asked ∧
      Result.told <$> asked = form.conclude <$> evaluator.drive (Block.respond host) routine w := by
  cases form with
  | evaluate =>
    have made : evaluatorOf ceiling = .ok evaluator := accepted
    simp only [ask, made]
    exact ⟨_, rfl, told_evaluate evaluator host routine w⟩
  | decide =>
    have made : evaluatorOf ceiling = .ok evaluator := accepted
    simp only [ask, made]
    exact ⟨_, rfl, told_decide evaluator host routine w⟩
  | evaluateByDefault =>
    cases accepted
    exact ⟨_, rfl, told_evaluate default host routine w⟩
  | decideByDefault =>
    cases accepted
    exact ⟨_, rfl, told_decide default host routine w⟩

theorem ask_of_refused (refused : form.evaluator ceiling = .error e) (host : Host) (routine : Play Empty) (w : World) :
    form.ask host ceiling routine w = .error e := by
  cases form with
  | evaluate | decide =>
    have failed : evaluatorOf ceiling = .error e := refused
    simp only [ask, failed]
    rfl
  | evaluateByDefault | decideByDefault => cases refused

end Form

namespace Run

variable {run : Run} {evaluator : Evaluator} {e : ConfigError}

theorem perform_of_accepted (accepted : run.form.evaluator run.ceiling = .ok evaluator) (host : Host) (w : World) :
    run.perform host w =
      run.form.conclude <$> evaluator.drive (Block.respond host) (run.routine.routine host) w := by
  obtain ⟨asked, made, told⟩ := Form.ask_of_accepted accepted host (run.routine.routine host) w
  rw [perform, made, ← told, map_eq_pure_bind]
  rfl

theorem perform_of_refused (refused : run.form.evaluator run.ceiling = .error e) (host : Host) (w : World) :
    run.perform host w = some (.error (.refused e), w) := by
  rw [perform, Form.ask_of_refused refused]

end Run

/-- A run by itself, in a session of its own. -/
def Run.report? (host : Host) (run : Run) (vars : Vars) : Option (Report Answer) :=
  (run.perform host { state := vars }).map fun (result, w) => ⟨w.trace, result, w.state⟩

/-- An evaluation inside another one is a run from the same variables, followed less deep. -/
theorem Host.evaluation_eq_report? (definitions : Definitions) (depth : Nat) (run : Run) (vars : Vars) :
    (Host.ofDepth definitions (depth + 1)).evaluation run vars =
      (run.report? (Host.ofDepth definitions depth) vars).map fun report =>
        (report.result, report.trace, report.vars) := by
  rw [Run.report?, Option.map_map]
  exact (Option.map_eq_bind ..).symm

theorem session_cons (host : Host) (run : Run) (runs : List Run) (vars : Vars) :
    session host (run :: runs) vars =
      (run.report? host vars >>= fun report => (report :: ·) <$> session host runs report.vars) := by
  simp only [session, Run.report?, Option.bind_eq_bind, Option.bind_map]
  refine Option.bind_congr fun (result, w) _ => ?_
  exact (Option.map_eq_bind ..).symm

end Adjudication.Script
