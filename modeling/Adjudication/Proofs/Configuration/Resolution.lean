import Adjudication.Proofs.Configuration.Stored
import Adjudication.Proofs.Toml.Documents
import Adjudication.Settings
import Mathlib

/-!
# Resolving a configuration

Where the ceiling of an evaluator comes from: from a flag, from a file, or from neither. A flag changes what is read,
but not whether it can be read. `config_resolution` says so of all files, and of all texts that give the ceiling in one of
the three ways of a TOML document.
-/

namespace Adjudication

open Toml

namespace EvaluatorConfig

/-- The configuration of a ceiling that is given as an integer of any size. -/
def ofInteger (k : Int) : Except DecodeError EvaluatorConfig :=
  if 0 ≤ k ∧ k < 2 ^ 32 then .ok ⟨UInt32.ofNat k.toNat⟩ else .error (.mismatch (.invalidValue (.integer k) "u32"))

/-- The plain documents that give a ceiling in decimal, and nothing else. -/
def plainTexts (k : Nat) : List String := [
  "[evaluator]\nmax_attempts = " ++ toString k ++ "\n",
  "evaluator.max_attempts = " ++ toString k ++ "\n",
  "evaluator = \x7b max_attempts = " ++ toString k ++ " \x7d\n"]

variable {text : String} {root entries : Entries} {origin : Origin} {k : Nat}

/-! ### From a document -/

theorem ofToml_of_missing (made : document? text = some root) (missing : root.lookup "evaluator" = none) :
    ofToml text = .ok ⟨100⟩ := by
  simp [ofToml, made, missing]

theorem ofToml_of_table (made : document? text = some root)
    (found : root.lookup "evaluator" = some (.table origin entries)) :
    ofToml text = Decoder.single.ofEntry? {} (⟨·⟩) Decoder.uint32 (entries.lookup "max_attempts") := by
  simp [ofToml, made, found, nodeDecoder, Decoder.single]

theorem ofToml_of_integer {k : Int} (made : document? text = some root)
    (found : root.lookup "evaluator" = some (.table origin entries))
    (given : entries.lookup "max_attempts" = some (.number (.integer k))) : ofToml text = ofInteger k := by
  rw [ofToml_of_table made found, given, Decoder.single.ofEntry?, Decoder.uint32, ofInteger, uint32OfInt?]
  by_cases range : 0 ≤ k ∧ k < 2 ^ 32
  · have fits : (0 ≤ k && k < UInt32.size) = true := by simpa using range
    rw [if_pos fits, if_pos range]
    rfl
  · have exceeds : ¬ (0 ≤ k && k < UInt32.size) = true := by simpa using range
    rw [if_neg exceeds, if_neg range]
    rfl

theorem ofInteger_of_lt (small : k < 2 ^ 32) : ofInteger k = .ok ⟨UInt32.ofNat k⟩ :=
  if_pos ⟨Int.natCast_nonneg k, by exact_mod_cast small⟩

theorem ofInteger_of_ge (great : 2 ^ 32 ≤ k) : ofInteger k = .error (.mismatch (.invalidValue (.integer k) "u32")) :=
  if_neg fun range => absurd range.2 (Int.not_lt.mpr (by exact_mod_cast great))

theorem ofToml_of_gives (gives : Gives "evaluator" "max_attempts" k text) (small : k < 2 ^ 63)
    (made : document? text = some root) : ofToml text = ofInteger k := by
  obtain _ | ⟨table, number⟩ := gives.hasNumber small made
  obtain ⟨given⟩ | ⟨_, beyond⟩ := number
  · exact ofToml_of_integer made table given
  · cases beyond

/-! ### Plain documents -/

theorem assigns_plain (k : Nat) (e : List Char) :
    AssignsDecimal ⟨[], "max_attempts"⟩ k ("max_attempts = ".toList ++ (Nat.toDigits 10 k ++ e)) e :=
  .intro (v := ' ' :: (Nat.toDigits 10 k ++ e)) rfl (skipBlanks_decimal k e)

theorem assigns_dotted (k : Nat) (e : List Char) :
    AssignsDecimal ⟨["evaluator"], "max_attempts"⟩ k
      ("evaluator.max_attempts = ".toList ++ (Nat.toDigits 10 k ++ e)) e :=
  .intro (v := ' ' :: (Nat.toDigits 10 k ++ e)) rfl (skipBlanks_decimal k e)

/-- A text that gives a ceiling, and is a document. -/
def GivesCeiling (k : Nat) (text : String) : Prop :=
  Gives "evaluator" "max_attempts" k text ∧ (document? text).isSome

theorem givesCeiling_header (small : k < 2 ^ 63)
    (body : skipMark text.toList = "[evaluator]\nmax_attempts = ".toList ++ (Nat.toDigits 10 k ++ ['\n'])) :
    GivesCeiling k text := by
  let rest := "max_attempts = ".toList ++ (Nat.toDigits 10 k ++ ['\n'])
  have leave : StatementsLeave [.header false ⟨[], "evaluator"⟩] (skipMark text.toList) rest :=
    body ▸ .cons rfl rfl (.nil rest)
  have assigns : AssignsDecimal ⟨[], "max_attempts"⟩ k (skipLines false rest) ['\n'] := assigns_plain k ['\n']
  have ended : statementEnd? ['\n'] = some [] := rfl
  have all := leave.snoc (assigns.statement? small (endsInteger_of_statementEnd? ended)) ended
  constructor
  · exact @Gives.header _ _ _ _ [] [] _ _ _ leave assigns ended
  · rw [document?_of_leave all rfl (by simp [body]) rfl rfl]
    rfl

theorem givesCeiling_dotted (small : k < 2 ^ 63)
    (body : skipMark text.toList = "evaluator.max_attempts = ".toList ++ (Nat.toDigits 10 k ++ ['\n'])) :
    GivesCeiling k text := by
  have leave := StatementsLeave.nil (skipMark text.toList)
  have assigns : AssignsDecimal ⟨["evaluator"], "max_attempts"⟩ k (skipLines false (skipMark text.toList)) ['\n'] :=
    body ▸ assigns_dotted k ['\n']
  have ended : statementEnd? ['\n'] = some [] := rfl
  have all := leave.snoc (assigns.statement? small (endsInteger_of_statementEnd? ended)) ended
  constructor
  · exact @Gives.dotted _ _ _ _ [] _ _ _ leave assigns ended
  · rw [document?_of_leave all rfl (by simp [body]) rfl rfl]
    rfl

theorem givesCeiling_inline (small : k < 2 ^ 63)
    (body : skipMark text.toList =
      "evaluator = \x7b max_attempts = ".toList ++ (Nat.toDigits 10 k ++ [' ', '\x7d', '\n'])) :
    GivesCeiling k text := by
  let inside := " max_attempts = ".toList ++ (Nat.toDigits 10 k ++ [' ', '\x7d', '\n'])
  have leave := StatementsLeave.nil (skipMark text.toList)
  have named : key? (skipLines false (skipMark text.toList)) =
      some (⟨[], "evaluator"⟩, '=' :: ' ' :: '\x7b' :: inside) := body ▸ rfl
  have assigns : AssignsDecimal ⟨[], "max_attempts"⟩ k inside [' ', '\x7d', '\n'] :=
    .intro (v := ' ' :: (Nat.toDigits 10 k ++ [' ', '\x7d', '\n'])) rfl (skipBlanks_decimal k _)
  have value : value? ('\x7b' :: inside) =
      some (.table .inline [("max_attempts", .number (.integer k))], ['\n']) := by
    have fuel : 3 * ('\x7b' :: inside).length + 3 = 3 * inside.length + 2 + 2 + 1 + 1 := by
      rw [List.length_cons]
      omega
    have pair : Toml.readPair? (3 * inside.length + 2 + 2) 78 (skipBlanks inside) =
        some ([(⟨[], "max_attempts"⟩, .number (.integer k))], ['\n']) :=
      (readPair?_skipBlanks inside).trans (assigns.readPair?_last small rfl)
    rw [value?, fuel, maxDepth, readValue?.eq_5, readPairs?.eq_2]
    split
    · rename_i closed
      cases closed
    · rw [pair]
      rfl
  have read : statement? (skipLines false (skipMark text.toList)) =
      some (.assignment ⟨[], "evaluator"⟩ (.table .inline [("max_attempts", .number (.integer k))]), ['\n']) := by
    rw [statement?_of_key? named, assignment?, named]
    exact congrArg (Option.bind · _) value
  constructor
  · exact @Gives.inline _ _ _ _ [] [] _ _ _ _ _ leave named rfl (.nil _) assigns (.inr rfl)
  · rw [document?_of_leave (leave.snoc read rfl) rfl (by simp [body]) rfl rfl]
    rfl

theorem givesCeiling_of_mem_plainTexts (small : k < 2 ^ 63) : ∀ text ∈ plainTexts k, GivesCeiling k text := by
  have body : ∀ opening closing : String, (opening ++ toString k ++ closing).toList =
      opening.toList ++ (Nat.toDigits 10 k ++ closing.toList) := by
    intro opening closing
    rw [String.toList_append, String.toList_append, Nat.toString_eq_repr, Nat.toList_repr, List.append_assoc]
  simp only [plainTexts, List.forall_mem_cons]
  refine ⟨givesCeiling_header small ?_, givesCeiling_dotted small ?_, givesCeiling_inline small ?_, nofun⟩
  all_goals
    rw [body]
    rfl

end EvaluatorConfig

/-! ### From files and a flag -/

/-- A flag changes the ceiling, but not whether a configuration can be read. -/
theorem resolveConfig_flag (files : Files) (path : Option String) (m : UInt32) :
    resolveConfig files path (some m) = (resolveConfig files path none).map fun _ => ⟨m⟩ := by
  cases path with
  | none => rfl
  | some path =>
    rw [resolveConfig, resolveConfig]
    cases loadConfig files path <;> rfl

theorem resolveConfig_unreadable {files : Files} {path : String} {failure : ReadFailure}
    (unreadable : files path = .error failure) :
    resolveConfig files (some path) none = .error (.unreadable path failure) := by
  rw [resolveConfig, loadConfig, load, unreadable]
  rfl

theorem resolveConfig_file {files : Files} {path text : String} (read : files path = .ok text) :
    resolveConfig files (some path) none = (EvaluatorConfig.ofToml text).mapError (.unusable path .config) := by
  have loaded : loadConfig files path = (EvaluatorConfig.ofToml text).mapError (.unusable path .config) := by
    simp only [loadConfig, load, read]
    cases EvaluatorConfig.ofToml text <;> rfl
  rw [resolveConfig]
  simp only [loaded]
  exact bind_pure _

theorem Evaluator.ofConfig_error_iff {c : EvaluatorConfig} : (∃ e, ofConfig c = .error e) ↔ c.maxAttempts = 0 := by
  have refused : (∃ e, ofConfig c = .error e) ↔ ¬ ∃ e, ofConfig c = .ok e := by
    cases ofConfig c with
    | error e => exact ⟨fun _ => nofun, fun _ => ⟨e, rfl⟩⟩
    | ok e => simp
  rw [refused, ofConfig_ok_iff, ← UInt32.toNat_inj, UInt32.toNat_zero]
  omega

open EvaluatorConfig in
/-- With a flag, a configuration is resolved just as without it, errors and all, but for the ceiling. Without one it is
the default configuration or that of the file, where a missing table and a missing entry stand for the default ceiling.
An evaluator is refused just at the ceiling zero, after the flag has taken the place of what a file says. Each integer of
sixty-three bits can be given in three plain documents; in every document that gives it in one of these ways, whatever
else it holds, it is the ceiling if it has thirty-two bits, and the same error otherwise. -/
theorem config_resolution (files : Files) :
    (∀ path m, resolveConfig files path (some m) = (resolveConfig files path none).map fun _ => ⟨m⟩) ∧
    resolveConfig files none none = .ok ⟨100⟩ ∧
    (∀ path failure, files path = .error failure →
      resolveConfig files (some path) none = .error (.unreadable path failure)) ∧
    (∀ path text, files path = .ok text →
      resolveConfig files (some path) none = (ofToml text).mapError (.unusable path .config)) ∧
    (∀ text, document? text = none → ofToml text = .error .malformed) ∧
    (∀ text root, document? text = some root →
      (root.lookup "evaluator" = none → ofToml text = .ok ⟨100⟩) ∧
      ∀ origin entries, root.lookup "evaluator" = some (.table origin entries) →
        (entries.lookup "max_attempts" = none → ofToml text = .ok ⟨100⟩) ∧
        ∀ k, entries.lookup "max_attempts" = some (.number (.integer k)) → ofToml text = ofInteger k) ∧
    (∀ path m c, resolveConfig files path m = .ok c →
      ((∃ e, Evaluator.ofConfig c = .error e) ↔ c.maxAttempts = 0) ∧
      ∀ n, m = some n → ((∃ e, Evaluator.ofConfig c = .error e) ↔ n = 0)) ∧
    ∀ k < 2 ^ 63, (∀ text ∈ plainTexts k, GivesCeiling k text) ∧
      ∀ text, GivesCeiling k text →
        (k < 2 ^ 32 → ∃ c, ofToml text = .ok c ∧ c.maxAttempts.toNat = k) ∧
        (2 ^ 32 ≤ k → ofToml text = .error (.mismatch (.invalidValue (.integer k) "u32"))) := by
  refine ⟨resolveConfig_flag files, rfl, fun _ _ => resolveConfig_unreadable, fun _ _ => resolveConfig_file,
    fun text broken => by rw [ofToml, broken],
    fun text root made => ⟨ofToml_of_missing made, fun origin entries found => ?_⟩,
    fun path m c resolved => ⟨Evaluator.ofConfig_error_iff, ?_⟩,
    fun k small => ⟨givesCeiling_of_mem_plainTexts small, fun text gives => ?_⟩⟩
  · refine ⟨fun missing => ?_, fun k => ofToml_of_integer made found⟩
    rw [ofToml_of_table made found, missing]
    rfl
  · rintro n rfl
    rw [resolveConfig_flag] at resolved
    cases base : resolveConfig files path none with
    | error e =>
      rw [base] at resolved
      cases resolved
    | ok _ =>
      rw [base] at resolved
      cases resolved
      exact Evaluator.ofConfig_error_iff
  · obtain ⟨gives, isDocument⟩ := gives
    obtain ⟨root, made⟩ := Option.isSome_iff_exists.mp isDocument
    rw [ofToml_of_gives gives small made]
    exact ⟨fun fits => ⟨_, ofInteger_of_lt fits, UInt32.toNat_ofNat_of_lt' fits⟩, ofInteger_of_ge⟩

/-- A ceiling of thirty-two bits and one that is too great, each in a file with another entry before it. A flag sets the
first to zero, and does not hide the second. -/
theorem config_resolution_files :
    let inline : Files := fun _ => .ok "evaluator = \x7b x = 7, max_attempts = 250 \x7d # y\n"
    let dotted : Files := fun _ => .ok "x = 7\nevaluator.max_attempts = 4294967296\n"
    let error : LoadError := .unusable "a" .config (.mismatch (.invalidValue (.integer 4294967296) "u32"))
    resolveConfig inline (some "a") none = .ok ⟨250⟩ ∧
      resolveConfig inline (some "a") (some 0) = .ok ⟨0⟩ ∧
      (∃ e, Evaluator.ofConfig ⟨0⟩ = .error e) ∧
      resolveConfig dotted (some "a") (some 5) = .error error ∧
      resolveConfig (fun _ => .error .missing) (some "a") (some 5) = .error (.unreadable "a" .missing) := by
  intro inline dotted error
  have givesInline : EvaluatorConfig.GivesCeiling 250 "evaluator = \x7b x = 7, max_attempts = 250 \x7d # y\n" := by
    have named : key? (skipLines false (skipMark "evaluator = \x7b x = 7, max_attempts = 250 \x7d # y\n".toList)) =
        some (⟨[], "evaluator"⟩, '=' :: " \x7b x = 7, max_attempts = 250 \x7d # y\n".toList) := by rfl
    have decimal : skipBlanks " 7, max_attempts = 250 \x7d # y\n".toList =
        Nat.toDigits 10 7 ++ ", max_attempts = 250 \x7d # y\n".toList := by rfl
    have ends : EndsInteger ", max_attempts = 250 \x7d # y\n".toList := by
      rintro _ ⟨⟩
      decide
    have seven : readValue? 1 78 (skipBlanks " 7, max_attempts = 250 \x7d # y\n".toList) =
        some (.number (.integer 7), ", max_attempts = 250 \x7d # y\n".toList) :=
      decimal ▸ readValue?_decimal ends 0 78 (by decide)
    have pairs : PairsLeave 78 [(⟨[], "x"⟩, .number (.integer 7))] " x = 7, max_attempts = 250 \x7d # y\n".toList
        " max_attempts = 250 \x7d # y\n".toList := .cons (by rfl) seven (by rfl) (.nil _)
    have assigns : AssignsDecimal ⟨[], "max_attempts"⟩ 250 " max_attempts = 250 \x7d # y\n".toList
        " \x7d # y\n".toList := .intro (v := " 250 \x7d # y\n".toList) (by rfl) (by rfl)
    exact ⟨@Gives.inline _ _ _ _ [] _ _ _ _ _ _ (.nil _) named (by rfl) pairs assigns (.inr (by rfl)), by cbv⟩
  have givesDotted : EvaluatorConfig.GivesCeiling 4294967296 "x = 7\nevaluator.max_attempts = 4294967296\n" := by
    have seven : AssignsDecimal ⟨[], "x"⟩ 7
        (skipLines false (skipMark "x = 7\nevaluator.max_attempts = 4294967296\n".toList))
        "\nevaluator.max_attempts = 4294967296\n".toList :=
      .intro (v := " 7\nevaluator.max_attempts = 4294967296\n".toList) (by rfl) (by rfl)
    have ended : statementEnd? "\nevaluator.max_attempts = 4294967296\n".toList =
        some "evaluator.max_attempts = 4294967296\n".toList := by rfl
    have leave : StatementsLeave (assigning [(⟨[], "x"⟩, .number (.integer 7))])
        (skipMark "x = 7\nevaluator.max_attempts = 4294967296\n".toList)
        "evaluator.max_attempts = 4294967296\n".toList :=
      .cons (seven.statement? (by decide) (endsInteger_of_statementEnd? ended)) ended (.nil _)
    have assigns : AssignsDecimal ⟨["evaluator"], "max_attempts"⟩ 4294967296
        (skipLines false "evaluator.max_attempts = 4294967296\n".toList) ['\n'] :=
      .intro (v := " 4294967296\n".toList) (by rfl) (by rfl)
    exact ⟨Gives.dotted leave assigns rfl, by cbv⟩
  obtain ⟨flag, -, -, file, -, -, refused, given⟩ := config_resolution inline
  have read : resolveConfig inline (some "a") none = .ok ⟨250⟩ := by
    obtain ⟨⟨c⟩, read, value⟩ := ((given 250 (by decide)).2 _ givesInline).1 (by decide)
    obtain rfl : c = 250 := UInt32.toNat_inj.mp value
    rw [file "a" _ rfl, read]
    rfl
  have zero : resolveConfig inline (some "a") (some 0) = .ok ⟨0⟩ := by
    rw [flag, read]
    rfl
  obtain ⟨flagDotted, -, -, fileDotted, -, -, -, givenDotted⟩ := config_resolution dotted
  obtain ⟨flagMissing, -, missing, -⟩ := config_resolution fun _ => .error .missing
  refine ⟨read, zero, ((refused _ _ _ zero).2 0 rfl).mpr rfl, ?_, ?_⟩
  · rw [flagDotted, fileDotted "a" _ rfl, ((givenDotted 4294967296 (by decide)).2 _ givesDotted).2 (by decide)]
    rfl
  · rw [flagMissing, missing "a" .missing rfl]
    rfl

end Adjudication
