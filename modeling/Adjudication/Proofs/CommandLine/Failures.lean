import Adjudication.CommandLine.Run

/-!
# Failures of a run

A run needs a configuration that can be used and declarations that can be read. `Arguments.ready_or_fails` says that
either all of it is there, or there is a first failure, with all that is looked at before it in order, and
`Fails.stage_eq` that the text of a failure tells at which of the five stages it is.
-/

namespace Adjudication

/-! ### Texts -/

/-- Of two openings of one text, one goes on as the other. -/
theorem prefix_of_append_eq {a b x y : String} (same : a ++ x = b ++ y) :
    a.toList <+: b.toList ∨ b.toList <+: a.toList := by
  have chars := congrArg String.toList same
  rw [String.toList_append, String.toList_append] at chars
  exact List.prefix_or_prefix_of_prefix ⟨x.toList, rfl⟩ ⟨y.toList, chars.symm⟩

namespace ReadFailure

/-- The last characters of a message, by which it is told from the others. -/
def ending : ReadFailure → List Char
  | .missing => ['r', ' ', '2', ')']
  | .isFolder => [' ', '2', '1', ')']
  | .notAFolder => [' ', '2', '0', ')']
  | .tooLong => [' ', '3', '6', ')']
  | .notText => ['T', 'F', '-', '8']

theorem ending_suffix (failure : ReadFailure) : failure.ending <:+ failure.message.toList := by
  cases failure <;> decide +kernel

theorem ending_injective {failure other : ReadFailure} (same : failure.ending = other.ending) : failure = other := by
  cases failure <;> cases other <;> simp [ending] at same ⊢

/-- What stands before a message is told from it. -/
theorem append_message_inj {x y : String} {failure other : ReadFailure}
    (same : x ++ failure.message = y ++ other.message) : x = y ∧ failure = other := by
  have chars := congrArg String.toList same
  rw [String.toList_append, String.toList_append] at chars
  have first : failure.ending <:+ x.toList ++ failure.message.toList :=
    failure.ending_suffix.trans (List.suffix_append _ _)
  have second : other.ending <:+ x.toList ++ failure.message.toList :=
    chars ▸ other.ending_suffix.trans (List.suffix_append _ _)
  have long : failure.ending.length = other.ending.length := by cases failure <;> cases other <;> rfl
  have one : failure = other :=
    ending_injective ((List.suffix_of_suffix_length_le first second (Nat.le_of_eq long)).eq_of_length long)
  subst one
  exact ⟨String.toList_inj.mp (List.append_cancel_right chars), rfl⟩

end ReadFailure

namespace CommandLine

/-! ### What a run needs -/

/-- What is looked at in a run, in order. -/
inductive Stage where
  | configRead
  | configUse
  | ceiling
  | declarationsRead
  | declarationsUse

/-- What the text of a failure starts with. -/
def Stage.opening : Stage → String
  | .configRead | .declarationsRead => "failed to read "
  | .configUse => "failed to parse toml at "
  | .ceiling => "max_attempts must be at least 1"
  | .declarationsUse => "failed to parse declarations at "

theorem Stage.opening_eq_of_prefix {stage other : Stage} (opening : stage.opening.toList <+: other.opening.toList) :
    stage.opening = other.opening := by
  cases stage <;> cases other <;> first | rfl | exact absurd opening (by decide +kernel)

/-- Only the two readings open alike. -/
theorem Stage.eq_of_opening {stage other : Stage} (opening : stage.opening = other.opening) :
    stage = other ∨ (stage = .configRead ∧ other = .declarationsRead) ∨
      (stage = .declarationsRead ∧ other = .configRead) := by
  cases stage <;> cases other <;> simp [Stage.opening] at opening ⊢

/-- The configuration before a ceiling is given: that of the file, and the default one without a file. -/
inductive Configures (files : Files) : Option String → EvaluatorConfig → Prop where
  | default : Configures files none {}
  | file {path text config} (read : files path = .ok text) (usable : EvaluatorConfig.ofToml text = .ok config) :
      Configures files (some path) config

namespace Arguments

/-- The configuration that arguments come to; a given ceiling takes the place of its own. -/
def Resolves (arguments : Arguments) (files : Files) (config : EvaluatorConfig) : Prop :=
  ∃ base, Configures files arguments.config base ∧
    config = { base with maxAttempts := arguments.maxAttempts.getD base.maxAttempts }

/-- All that a run needs. -/
structure Ready (arguments : Arguments) (files : Files) (config : EvaluatorConfig) (declarations : List Declaration) :
    Prop where
  resolves : arguments.Resolves files config
  positive : 1 ≤ config.maxAttempts.toNat
  loads : ∃ text, files arguments.declarations = .ok text ∧ Declaration.listOfText text = .ok declarations

/-- The first failure of a run, with all that comes before it in order: where it is, what it is, and what it reads. -/
inductive Fails (arguments : Arguments) (files : Files) (wording : Wording) : Stage → RunError → String → Prop where
  | configUnreadable {path failure} (given : arguments.config = some path) (unread : files path = .error failure) :
      Fails arguments files wording .configRead (.unloaded (.unreadable path failure))
        ("failed to read " ++ path ++ ": " ++ failure.message)
  | configUnusable {path text error} (given : arguments.config = some path) (read : files path = .ok text)
      (unusable : EvaluatorConfig.ofToml text = .error error) :
      Fails arguments files wording .configUse (.unloaded (.unusable path .config error))
        ("failed to parse toml at " ++ path ++ ": " ++ wording.text .config path error)
  | zeroCeiling {config} (resolves : arguments.Resolves files config) (zero : config.maxAttempts.toNat = 0) :
      Fails arguments files wording .ceiling (.refused .zeroAttempts) "max_attempts must be at least 1"
  | declarationsUnreadable {config failure} (resolves : arguments.Resolves files config)
      (positive : 1 ≤ config.maxAttempts.toNat) (unread : files arguments.declarations = .error failure) :
      Fails arguments files wording .declarationsRead (.unloaded (.unreadable arguments.declarations failure))
        ("failed to read " ++ arguments.declarations ++ ": " ++ failure.message)
  | declarationsUnusable {config text error} (resolves : arguments.Resolves files config)
      (positive : 1 ≤ config.maxAttempts.toNat) (read : files arguments.declarations = .ok text)
      (unusable : Declaration.listOfText text = .error error) :
      Fails arguments files wording .declarationsUse (.unloaded (.unusable arguments.declarations .declarations error))
        ("failed to parse declarations at " ++ arguments.declarations ++ ": " ++
          wording.text .declarations arguments.declarations error)

variable {arguments : Arguments} {files files' : Files} {wording wording' : Wording} {config : EvaluatorConfig}
  {declarations : List Declaration} {stage stage' : Stage} {e e' : RunError} {text : String}

theorem ready_or_fails (arguments : Arguments) (files : Files) (wording : Wording) :
    (∃ config declarations, arguments.Ready files config declarations) ∨
      ∃ stage e text, arguments.Fails files wording stage e text := by
  have configured : (∃ base, Configures files arguments.config base) ∨
      ∃ stage e text, arguments.Fails files wording stage e text := by
    cases given : arguments.config with
    | none => exact .inl ⟨{}, .default⟩
    | some path =>
      cases read : files path with
      | error failure => exact .inr ⟨_, _, _, .configUnreadable given read⟩
      | ok text =>
        cases usable : EvaluatorConfig.ofToml text with
        | error error => exact .inr ⟨_, _, _, .configUnusable given read usable⟩
        | ok config => exact .inl ⟨config, .file read usable⟩
  obtain ⟨base, configures⟩ | fails := configured
  · have resolves : arguments.Resolves files _ := ⟨base, configures, rfl⟩
    rcases Nat.eq_zero_or_pos (arguments.maxAttempts.getD base.maxAttempts).toNat with zero | positive
    · exact .inr ⟨_, _, _, .zeroCeiling resolves zero⟩
    · cases read : files arguments.declarations with
      | error failure => exact .inr ⟨_, _, _, .declarationsUnreadable resolves positive read⟩
      | ok text =>
        cases usable : Declaration.listOfText text with
        | error error => exact .inr ⟨_, _, _, .declarationsUnusable resolves positive read usable⟩
        | ok declarations => exact .inl ⟨_, declarations, resolves, positive, text, read, usable⟩
  · exact .inr fails

theorem resolveConfig_of_resolves (resolves : arguments.Resolves files config) :
    resolveConfig files arguments.config arguments.maxAttempts = .ok config := by
  obtain ⟨base, configures, rfl⟩ := resolves
  generalize arguments.config = path at configures
  cases configures with
  | default => cases arguments.maxAttempts <;> rfl
  | file read usable =>
    rw [resolveConfig, loadConfig, load, read]
    simp only [usable]
    cases arguments.maxAttempts <;> rfl

theorem evaluator_of_resolves (resolves : arguments.Resolves files config) (positive : 0 < config.maxAttempts.toNat) :
    arguments.evaluator files = .ok ⟨config, positive⟩ := by
  rw [evaluator, resolveConfig_of_resolves resolves]
  simp only [Evaluator.ofConfig_of_pos positive]

theorem prepare_of_ready (ready : arguments.Ready files config declarations) :
    arguments.prepare files = .ok (⟨config, ready.positive⟩, declarations) := by
  obtain ⟨text, read, usable⟩ := ready.loads
  rw [prepare, evaluator_of_resolves ready.resolves ready.positive, loadDeclarations, load, read]
  simp only [usable]
  rfl

theorem prepare_of_evaluator_error (failed : arguments.evaluator files = .error e) :
    arguments.prepare files = .error e := by
  rw [prepare, failed]
  rfl

theorem prepare_of_fails (fails : arguments.Fails files wording stage e text) : arguments.prepare files = .error e := by
  cases fails with
  | configUnreadable given unread =>
    apply prepare_of_evaluator_error
    rw [evaluator, given, resolveConfig, loadConfig, load, unread]
    rfl
  | configUnusable given read unusable =>
    apply prepare_of_evaluator_error
    rw [evaluator, given, resolveConfig, loadConfig, load, read]
    simp only [unusable]
    rfl
  | zeroCeiling resolves zero =>
    apply prepare_of_evaluator_error
    rw [evaluator, resolveConfig_of_resolves resolves]
    simp only [Evaluator.ofConfig_of_zero zero]
  | declarationsUnreadable resolves positive unread =>
    rw [prepare, evaluator_of_resolves resolves positive, loadDeclarations, load, unread]
    rfl
  | declarationsUnusable resolves positive read unusable =>
    rw [prepare, evaluator_of_resolves resolves positive, loadDeclarations, load, read]
    simp only [unusable]
    rfl

namespace Fails

/-- The text of a failure is the message of its error, and the words of a reader after it. -/
theorem text_eq (fails : arguments.Fails files wording stage e text) : e.message ++ e.detail wording = text := by
  cases fails with
  | configUnreadable | zeroCeiling | declarationsUnreadable => exact String.append_empty
  | configUnusable | declarationsUnusable => exact (String.append_assoc ..).symm

theorem opens (fails : arguments.Fails files wording stage e text) : ∃ rest, text = stage.opening ++ rest := by
  cases fails with
  | zeroCeiling => exact ⟨"", String.append_empty.symm⟩
  | configUnreadable | configUnusable | declarationsUnreadable | declarationsUnusable =>
    rw [String.append_assoc, String.append_assoc]
    exact ⟨_, rfl⟩

theorem opening_eq (fails : arguments.Fails files wording stage e text)
    (fails' : arguments.Fails files' wording' stage' e' text) : stage.opening = stage'.opening := by
  obtain ⟨rest, opened⟩ := fails.opens
  obtain ⟨rest', opened'⟩ := fails'.opens
  rcases prefix_of_append_eq (opened.symm.trans opened') with first | second
  · exact Stage.opening_eq_of_prefix first
  · exact (Stage.opening_eq_of_prefix second).symm

/-- A configuration that cannot be read is not taken for declarations that cannot: their texts name the files, and if
the files are the same, then it is the configuration that is read first. -/
theorem not_declarationsRead (fails : arguments.Fails files wording .configRead e text) :
    ¬ arguments.Fails files' wording' .declarationsRead e' text := by
  intro fails'
  cases fails with
  | @configUnreadable path failure given unread =>
    generalize same : "failed to read " ++ path ++ ": " ++ failure.message = shown at fails'
    cases fails' with
    | @declarationsUnreadable _ failure' resolves _ unread' =>
      obtain ⟨opened, rfl⟩ := ReadFailure.append_message_inj same
      have paths : path = arguments.declarations := by simpa using opened
      obtain ⟨base, configures, -⟩ := resolves
      rw [given, paths] at configures
      cases configures with
      | file read => cases unread'.symm.trans read

/-- Failures that read the same are at the same stage, whatever the files and the words of the readers are. -/
theorem stage_eq (fails : arguments.Fails files wording stage e text)
    (fails' : arguments.Fails files' wording' stage' e' text) : stage = stage' := by
  rcases Stage.eq_of_opening (fails.opening_eq fails') with same | ⟨rfl, rfl⟩ | ⟨rfl, rfl⟩
  · exact same
  · exact absurd fails' fails.not_declarationsRead
  · exact absurd fails fails'.not_declarationsRead

/-- The text names a mismatch. -/
theorem gives_message {path : String} {subject : Subject} {m : Mismatch}
    (fails : arguments.Fails files wording stage (.unloaded (.unusable path subject (.mismatch m))) text) :
    (m.message subject.floatStyle).toList <:+: text.toList := by
  have given := wording.gives_message subject path m
  cases fails with
  | configUnusable | declarationsUnusable =>
    rw [String.toList_append]
    exact given.trans (List.suffix_append _ _).isInfix

end Fails

end Arguments

end CommandLine

end Adjudication
