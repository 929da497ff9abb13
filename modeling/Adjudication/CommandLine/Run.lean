import Adjudication.CommandLine.Arguments
import Adjudication.Log.Filter
import Adjudication.Selection
import Adjudication.Settings
import Adjudication.Text.Terminal

/-!
# Runs of the command line

What a run does, as a function of its words, its environment and the files it can read. It configures the evaluator,
reads the declarations, selects the targets and shows them; the first thing that goes wrong ends it, and nothing is
shown then but the error.
-/

namespace Adjudication.CommandLine

structure Environment where
  config : Option String
  log : Option String
  deriving DecidableEq, Repr

/-- An environment from the values of its variables by their names. -/
def Environment.ofVariables {m : Type → Type} [Monad m] (valueOf : String → m (Option String)) :
    m Environment :=
  return ⟨← valueOf "ARBITER_CONFIG", ← valueOf "RUST_LOG"⟩

inductive RunError where
  | badFilter (error : FilterError)
  | unloaded (error : LoadError)
  | refused (error : ConfigError)
  | undecided (error : DecisionError Empty)

/-- What an error says, up to the words of the reader that found it. -/
def RunError.message : RunError → String
  | .badFilter e => e.message
  | .unloaded e => e.headline
  | .refused e => e.message
  | .undecided e => e.message nofun

/-- What comes after the message. -/
def RunError.detail (wording : Wording) : RunError → String
  | .unloaded e => e.detail wording
  | _ => ""

inductive Outcome where
  | misused
  /-- With a text that was asked for. -/
  | told (text : String)
  | failed (log : List LogRecord) (error : RunError)
  | done (log : List LogRecord) (text : String)

def logRecord : Notice → LogRecord
  | .rejected r =>
    ⟨.error, "arbiter_cli", r.message, [("declaration", r.declaration.name), ("reason", r.reason.label)]⟩
  | .logged e =>
    ⟨e.level, "arbiter_core::runtime::evaluator", e.message,
      (e.fields nofun).map fun (name, value) => (name, value.render)⟩

def selectionRecord (scanned selected : Nat) : LogRecord :=
  ⟨.info, "arbiter_cli", "builder targets selected",
    [("scanned", toString scanned), ("selected", toString selected)]⟩

def showTargets (json : Bool) (targets : List Declaration) : String :=
  if json then (Declaration.listToJson targets).pretty ++ "\n"
  else String.join (targets.map fun d => d.name ++ "\n")

def Arguments.evaluator (arguments : Arguments) (files : Files) : Except RunError Evaluator :=
  match resolveConfig files arguments.config arguments.maxAttempts with
  | .error e => .error (.unloaded e)
  | .ok config =>
    match Evaluator.ofConfig config with
    | .error e => .error (.refused e)
    | .ok evaluator => .ok evaluator

def Arguments.prepare (arguments : Arguments) (files : Files) :
    Except RunError (Evaluator × List Declaration) := do
  let evaluator ← arguments.evaluator files
  match loadDeclarations files arguments.declarations with
  | .error e => .error (.unloaded e)
  | .ok declarations => .ok (evaluator, declarations)

def select (filter : LogFilter) (json : Bool) (evaluator : Evaluator) (declarations : List Declaration) : Outcome :=
  let selection := selectBuilderTargets evaluator declarations
  let log := selection.notices.map logRecord
  match selection.targets with
  | .error e => .failed (log.filter filter.shows) (.undecided e)
  | .ok targets =>
    let log := log ++ [selectionRecord declarations.length targets.length]
    .done (log.filter filter.shows) (showTargets json targets)

def Arguments.run (arguments : Arguments) (logVariable : Option String) (files : Files) : Outcome :=
  match LogFilter.choose logVariable arguments.log with
  | .error e => .failed [] (.badFilter e)
  | .ok filter =>
    match arguments.prepare files with
    | .error e => .failed [] e
    | .ok (evaluator, declarations) => select filter arguments.json evaluator declarations

/-! ### Texts -/

def versionText : String := "arbiter 0.1.0\n"

def usageText : String := "Usage: arbiter-cli [OPTIONS] <FILE>\n"

def blanks (count : Nat) : String := String.ofList (List.replicate count ' ')

def descriptionColumn : Nat := 26

/-- What the help says about an option: its names, the name of its value, and what it is for. The names are in heavy
letters, and every line of the description starts in its column. -/
def optionHelp (short : Option String) (long value description : String) : String :=
  let bold := Text.Terminal.bold
  let first := match short with
    | some short => bold short ++ ", "
    | none => blanks 4
  "  " ++ first ++ bold long ++ value ++ blanks (descriptionColumn - (6 + long.length + value.length)) ++
    String.intercalate ("\n" ++ blanks descriptionColumn) (description.splitOn "\n") ++ "\n"

/-- The help; it shows the path of the configuration in the environment. -/
def helpText (configVariable : Option String) : String :=
  "Select the class declarations a builder can be generated for\n\n" ++ usageText ++
  "\nArguments:\n" ++
  "  <FILE>  JSON array of scanned declarations\n" ++
  "\nOptions:\n" ++
  optionHelp "-c" "--config" " <FILE>" ("Optional TOML config with an [evaluator] table [env: ARBITER_CONFIG=" ++
    configVariable.getD "" ++ "]") ++
  optionHelp none "--max-attempts" " <N>" "Override the per-decision attempt ceiling" ++
  optionHelp none "--log" " <FILTER>" "Log filter used when RUST_LOG is unset" ++
  optionHelp none "--json" "" "Print the selected declarations as JSON instead of one name per line" ++
  optionHelp "-h" "--help" "" "Print help" ++
  optionHelp "-V" "--version" "" "Print version"

def run (words : List String) (environment : Environment) (files : Files) : Outcome :=
  match Request.ofWords? environment.config words with
  | none => .misused
  | some .help => .told (Text.Terminal.plain (helpText environment.config))
  | some .version => .told versionText
  | some (.selection arguments) => arguments.run environment.log files

namespace Outcome

def exitCode : Outcome → Nat
  | .misused => 2
  | .told _ => 0
  | .failed _ _ => 1
  | .done _ _ => 0

def output : Outcome → String
  | .told text => text
  | .done _ text => text
  | _ => ""

/-- What is told apart from the output while a run goes on. Before each record stands the time, which is left out. -/
def report : Outcome → String
  | .misused => usageText
  | .told _ => ""
  | .failed log _ | .done log _ => String.join (log.map (·.line ++ "\n"))

/-- What is told of the error that a run ends with, after its report. The causes of the error and the place in the
program, on lines of their own after it, are left out. -/
def complaint (wording : Wording) : Outcome → String
  | .failed _ e => "Error: " ++ e.message ++ e.detail wording ++ "\n"
  | _ => ""

end Outcome

end Adjudication.CommandLine
