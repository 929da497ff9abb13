import Adjudication.Proofs.CommandLine.Failures
import Adjudication.Proofs.Declaration.Selection
import Adjudication.Proofs.Json.Decoding
import Mathlib

/-!
# How a run ends

A run selects and shows the targets if all that it needs is there, and shows nothing but the first failure if not;
`run_all_or_nothing` says so.
-/

namespace Adjudication

namespace CommandLine

/-! ### The configuration of the environment -/

/-- A selection that is asked for with the environment is asked for without it too, and it is the same one if the path
of the environment is taken where none is given. -/
def Completes (configVariable : Option String) (request own : Option Request) : Prop :=
  ∀ arguments, request = some (.selection arguments) →
    ∃ given, own = some (.selection given) ∧ arguments = { given with config := given.config.or configVariable }

namespace Completes

variable {configVariable : Option String}

theorem bind {step : Option Draft} {request own : Draft → Option Request}
    (each : ∀ d, Completes configVariable (request d) (own d)) :
    Completes configVariable (step >>= request) (step >>= own) := by
  cases step with
  | none => exact nofun
  | some d => exact each d

theorem finish (d : Draft) : Completes configVariable (d.finish configVariable) (d.finish none) := by
  intro arguments finished
  obtain ⟨declarations, config, maxAttempts, log, json⟩ := d
  cases declarations with
  | none => cases config <;> cases configVariable <;> simp [Draft.finish] at finished
  | some file =>
    refine ⟨⟨file, config, maxAttempts, log, json⟩, by cases config <;> rfl, ?_⟩
    cases config with
    | some path =>
      cases finished
      rfl
    | none =>
      cases configVariable with
      | none =>
        cases finished
        rfl
      | some path =>
        by_cases empty : path = ""
        · simp [Draft.finish, path?, empty] at finished
        · simpa [Draft.finish, path?, empty, eq_comm] using finished

end Completes

theorem completes_request? (configVariable : Option String) (d : Draft) (words : List String) :
    Completes configVariable (request? configVariable d words) (request? none d words) := by
  induction d, words using request?.induct with
  | case1 d => exact .finish d
  | case2 d word words plain ih =>
    rw [request?, request?, plain]
    exact .bind ih
  | case3 d word words escape =>
    rw [request?, request?, escape]
    exact .bind .finish
  | case4 d word words help =>
    rw [request?, request?, help]
    exact nofun
  | case5 d word words version =>
    rw [request?, request?, version]
    exact nofun
  | case6 d word words json ih =>
    rw [request?, request?, json]
    exact .bind ih
  | case7 d word words setting value option ih =>
    rw [request?, request?, option]
    exact .bind ih
  | case8 d word setting option =>
    rw [request?, request?, option]
    exact nofun
  | case9 d word setting option value words plain ih =>
    rw [request?, request?, option]
    simp only [plain, if_true]
    exact .bind ih
  | case10 d word setting option value words other =>
    rw [request?, request?, option]
    simp only [other, Bool.false_eq_true, if_false]
    exact nofun
  | case11 d word words unknown =>
    rw [request?, request?, unknown]
    exact nofun

/-! ### Runs -/

theorem parse_empty : LogFilter.parse "" = .ok ⟨[]⟩ := by
  have parts : "".splitOn "," = [""] := by
    rw [String.splitOn, String.splitOnAux]
    decide
  simp [LogFilter.parse, parts]
  rfl

/-- What is told of a selection. -/
def selectionLog (declarations : List Declaration) : List LogRecord :=
  (declarations.flatMap Declaration.notices).map logRecord ++
    [selectionRecord declarations.length (declarations.filter (·.IsTarget)).length]

theorem select_eq (filter : LogFilter) (json : Bool) (evaluator : Evaluator) (declarations : List Declaration) :
    select filter json evaluator declarations =
      .done ((selectionLog declarations).filter filter.shows) (showTargets json (declarations.filter (·.IsTarget))) := by
  rw [select, selectBuilderTargets_eq]
  rfl

variable {words : List String} {environment : Environment} {files : Files} {arguments : Arguments} {filter : LogFilter}
  {config : EvaluatorConfig} {declarations : List Declaration} {wording : Wording} {stage : Stage} {e : RunError}
  {text : String}

theorem run_of_ready (accepted : Request.ofWords? environment.config words = some (.selection arguments))
    (filtered : LogFilter.choose environment.log arguments.log = .ok filter)
    (ready : arguments.Ready files config declarations) :
    run words environment files =
      .done ((selectionLog declarations).filter filter.shows)
        (showTargets arguments.json (declarations.filter (·.IsTarget))) := by
  rw [run, accepted]
  simp only [Arguments.run, filtered, Arguments.prepare_of_ready ready]
  exact select_eq filter arguments.json _ declarations

theorem run_of_fails (accepted : Request.ofWords? environment.config words = some (.selection arguments))
    (filtered : LogFilter.choose environment.log arguments.log = .ok filter)
    (fails : arguments.Fails files wording stage e text) : run words environment files = .failed [] e := by
  rw [run, accepted]
  simp only [Arguments.run, filtered, Arguments.prepare_of_fails fails]

theorem run_eq_failed_iff (wording : Wording)
    (accepted : Request.ofWords? environment.config words = some (.selection arguments))
    (filtered : LogFilter.choose environment.log arguments.log = .ok filter) :
    run words environment files = .failed [] e ↔ ∃ stage text, arguments.Fails files wording stage e text := by
  refine ⟨fun failed => ?_, fun ⟨stage, text, fails⟩ => run_of_fails accepted filtered fails⟩
  obtain ⟨config, declarations, ready⟩ | ⟨stage, first, text, fails⟩ := arguments.ready_or_fails files wording
  · rw [run_of_ready accepted filtered ready] at failed
    cases failed
  · rw [run_of_fails accepted filtered fails] at failed
    cases failed
    exact ⟨stage, text, fails⟩

theorem exitCode_eq_zero_iff (accepted : Request.ofWords? environment.config words = some (.selection arguments))
    (filtered : LogFilter.choose environment.log arguments.log = .ok filter) :
    (run words environment files).exitCode = 0 ↔ ∃ config declarations, arguments.Ready files config declarations := by
  constructor
  · intro succeeded
    refine (arguments.ready_or_fails files .brief).resolve_right ?_
    rintro ⟨stage, e, text, fails⟩
    rw [run_of_fails accepted filtered fails] at succeeded
    cases succeeded
  · rintro ⟨config, declarations, ready⟩
    rw [run_of_ready accepted filtered ready]
    rfl

/-- All that is told of a run that fails is the text of its failure. -/
theorem told_of_fails (accepted : Request.ofWords? environment.config words = some (.selection arguments))
    (filtered : LogFilter.choose environment.log arguments.log = .ok filter)
    (fails : arguments.Fails files wording stage e text) :
    (run words environment files).report ++ (run words environment files).complaint wording =
      "Error: " ++ text ++ "\n" := by
  rw [run_of_fails accepted filtered fails, ← fails.text_eq, ← String.append_assoc]
  exact String.empty_append

/-- A selection that is asked for is made in full or not at all. The path of the configuration comes from the words, or
else from the environment. If all that is needed is there, the targets are shown, and what is shown depends on nothing
but the declarations and the form that is asked for. If not, nothing is shown but the first failure, by a text that
tells the failures at the five stages apart and names a mismatch. -/
theorem run_all_or_nothing (wording : Wording)
    (accepted : Request.ofWords? environment.config words = some (.selection arguments))
    (filtered : LogFilter.choose environment.log arguments.log = .ok filter) :
    (∃ given, Request.ofWords? none words = some (.selection given) ∧
      arguments = { given with config := given.config.or environment.config }) ∧
    ((run words environment files).exitCode = 0 ↔ ∃ config declarations, arguments.Ready files config declarations) ∧
    (∀ config declarations, arguments.Ready files config declarations →
      (run words environment files).output =
        let targets := declarations.filter (·.IsTarget)
        if arguments.json then (Declaration.listToJson targets).pretty ++ "\n"
        else String.join (targets.map fun d => d.name ++ "\n")) ∧
    ((run words environment files).exitCode ≠ 0 →
      (run words environment files).exitCode = 1 ∧ (run words environment files).output = "" ∧
      ∃ stage e text, arguments.Fails files wording stage e text ∧
        (run words environment files).report ++ (run words environment files).complaint wording =
          "Error: " ++ text ++ "\n") ∧
    (∀ e, run words environment files = .failed [] e ↔ ∃ stage text, arguments.Fails files wording stage e text) ∧
    (∀ stage e text, arguments.Fails files wording stage e text →
      (∀ files' wording' stage' e', arguments.Fails files' wording' stage' e' text → stage = stage') ∧
      ∀ path subject m, e = .unloaded (.unusable path subject (.mismatch m)) →
        (m.message subject.floatStyle).toList <:+: text.toList) ∧
    ∀ words' environment' files' arguments' filter',
      Request.ofWords? environment'.config words' = some (.selection arguments') →
      LogFilter.choose environment'.log arguments'.log = .ok filter' →
      arguments'.json = arguments.json → files' arguments'.declarations = files arguments.declarations →
      (run words environment files).exitCode = 0 → (run words' environment' files').exitCode = 0 →
      (run words' environment' files').output = (run words environment files).output := by
  refine ⟨completes_request? environment.config {} words arguments accepted, exitCode_eq_zero_iff accepted filtered,
    fun config declarations ready => ?_, fun failed => ?_, fun e => run_eq_failed_iff wording accepted filtered,
    fun stage e text fails => ⟨fun _ _ _ _ => fails.stage_eq, ?_⟩, ?_⟩
  · rw [run_of_ready accepted filtered ready]
    rfl
  · obtain ready | ⟨stage, e, text, fails⟩ := arguments.ready_or_fails files wording
    · exact absurd ((exitCode_eq_zero_iff accepted filtered).mpr ready) failed
    · have told := told_of_fails accepted filtered fails
      rw [run_of_fails accepted filtered fails] at told ⊢
      exact ⟨rfl, rfl, stage, e, text, fails, told⟩
  · rintro path subject m rfl
    exact fails.gives_message
  · intro words' environment' files' arguments' filter' accepted' filtered' json same succeeded succeeded'
    obtain ⟨_, declarations, ready⟩ := (exitCode_eq_zero_iff accepted filtered).mp succeeded
    obtain ⟨_, declarations', ready'⟩ := (exitCode_eq_zero_iff accepted' filtered').mp succeeded'
    obtain ⟨text, read, usable⟩ := ready.loads
    obtain ⟨text', read', usable'⟩ := ready'.loads
    cases read.symm.trans (same.symm.trans read')
    cases usable.symm.trans usable'
    rw [run_of_ready accepted filtered ready, run_of_ready accepted' filtered' ready', json]
    rfl

/-- The ceiling that is given takes the place of the one in the file that is given, which takes the place of the file in
the environment. Other settings do not change what is shown. A ceiling of zero fails before declarations that are
missing. -/
theorem run_all_or_nothing_overridden :
    let text := "[[\"B\", \"object\"], \x7b\"modifiers\":[\"data\"], \"kind\":\"class\", \"name\":\"A\"\x7d]"
    let files : Files := fun path =>
      if path = "a.toml" then .ok "[evaluator]\nmax_attempts = 0"
      else if path = "d.json" then .ok text
      else .error .missing
    let outcome := run ["--config", "a.toml", "--max-attempts=7", "d.json"] ⟨some "b.toml", some ""⟩ files
    let other := run ["d.json", "--log="] ⟨none, none⟩ files
    let failing := run ["-ca.toml", "e.json"] ⟨none, some ""⟩ files
    outcome.exitCode = 0 ∧ outcome.output = "A\n" ∧ other.exitCode = 0 ∧ other.output = outcome.output ∧
      failing.exitCode = 1 ∧ failing.output = "" ∧
      failing.report ++ failing.complaint .brief = "Error: max_attempts must be at least 1\n" := by
  intro text files outcome other failing
  have accepted : Request.ofWords? (some "b.toml") ["--config", "a.toml", "--max-attempts=7", "d.json"] =
      some (.selection ⟨"d.json", some "a.toml", some 7, none, false⟩) := by cbv
  have accepted' : Request.ofWords? none ["d.json", "--log="] =
      some (.selection ⟨"d.json", none, none, some "", false⟩) := by cbv
  have acceptedFailing : Request.ofWords? none ["-ca.toml", "e.json"] =
      some (.selection ⟨"e.json", some "a.toml", none, none, false⟩) := by cbv
  have filtered : LogFilter.choose (some "") none = .ok ⟨[]⟩ := by
    rw [LogFilter.choose, Option.map_some, parse_empty]
  have filtered' : LogFilter.choose none (some "") = .ok ⟨[]⟩ := parse_empty
  have configured : EvaluatorConfig.ofToml "[evaluator]\nmax_attempts = 0" = .ok ⟨0⟩ := by cbv
  have loaded : Declaration.listOfText text = .ok [⟨"B", .object, [], true⟩, ⟨"A", .plainClass, [.data], true⟩] := by
    unfold text
    cbv
  have ready : Arguments.Ready ⟨"d.json", some "a.toml", some 7, none, false⟩ files ⟨7⟩
      [⟨"B", .object, [], true⟩, ⟨"A", .plainClass, [.data], true⟩] :=
    ⟨⟨⟨0⟩, .file rfl configured, rfl⟩, by decide, text, rfl, loaded⟩
  have ready' : Arguments.Ready ⟨"d.json", none, none, some "", false⟩ files {}
      [⟨"B", .object, [], true⟩, ⟨"A", .plainClass, [.data], true⟩] :=
    ⟨⟨{}, .default, rfl⟩, by decide, text, rfl, loaded⟩
  have fails : Arguments.Fails ⟨"e.json", some "a.toml", none, none, false⟩ files .brief .ceiling
      (.refused .zeroAttempts) "max_attempts must be at least 1" :=
    .zeroCeiling ⟨⟨0⟩, .file rfl configured, rfl⟩ rfl
  obtain ⟨-, succeeds, output, -, -, -, same⟩ :=
    @run_all_or_nothing _ ⟨some "b.toml", some ""⟩ files _ _ .brief accepted filtered
  obtain ⟨-, -, -, refused, failed, -, -⟩ :=
    @run_all_or_nothing _ ⟨none, some ""⟩ files _ _ .brief acceptedFailing filtered
  have succeeded : outcome.exitCode = 0 := succeeds.mpr ⟨_, _, ready⟩
  have succeeded' : other.exitCode = 0 :=
    (@run_all_or_nothing _ ⟨none, none⟩ files _ _ .brief accepted' filtered').2.1.mpr ⟨_, _, ready'⟩
  have shown : outcome.output = "A\n" := (output _ _ ready).trans (by cbv)
  have ends : failing = .failed [] (.refused .zeroAttempts) := (failed _).mpr ⟨_, _, fails⟩
  have nonzero : failing.exitCode ≠ 0 := by
    rw [ends]
    decide
  obtain ⟨code, nothing, stage, e, words, first, told⟩ := refused nonzero
  cases ends.symm.trans ((failed e).mpr ⟨stage, words, first⟩)
  cases first with
  | zeroCeiling =>
    exact ⟨succeeded, shown, succeeded', same _ ⟨none, none⟩ files _ _ accepted' filtered' rfl rfl succeeded succeeded',
      code, nothing, told⟩

end CommandLine

end Adjudication
