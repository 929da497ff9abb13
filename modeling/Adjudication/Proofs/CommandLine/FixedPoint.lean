import Adjudication.Proofs.CommandLine.Outcome
import Adjudication.Proofs.Declaration.RoundTrip
import Mathlib

/-!
# Runs on what was shown

What is shown as JSON are declarations that can be read again. All of them are targets, so a run on them selects all of
them and shows the same text again.
-/

namespace Adjudication

theorem Contents.ofBytes_toUTF8 (text : String) : Contents.ofBytes text.toUTF8 = .ok text := by
  rw [ofBytes, String.fromUTF8?, String.toUTF8_eq_toByteArray, dif_pos text.isValidUTF8]
  rfl

/-- A list of declarations is read where it was shown, with the newline after it. -/
theorem listOfText_showTargets (targets : List Declaration) :
    Declaration.listOfText (CommandLine.showTargets true targets) = .ok targets := by
  have blank : Json.Blank "\n".toList := by decide
  have written := ((Declaration.listToJson targets).writtenAs_write .pretty).before_blank blank
  rw [← String.toList_append] at written
  exact Declaration.listOfText_listToJson written

theorem Declaration.IsTarget.notices {d : Declaration} (target : d.IsTarget) :
    d.notices = [.logged (.finalized true 1)] := by
  rw [Declaration.notices, isTarget_iff.mp target]

theorem filter_targets {targets : List Declaration} (all : ∀ d ∈ targets, d.IsTarget) :
    targets.filter (·.IsTarget) = targets :=
  List.filter_eq_self.mpr fun d member => decide_eq_true (all d member)

theorem flatMap_notices {targets : List Declaration} (all : ∀ d ∈ targets, d.IsTarget) :
    targets.flatMap Declaration.notices = List.replicate targets.length (.logged (.finalized true 1)) := by
  induction targets with
  | nil => rfl
  | cons d targets ih =>
    obtain ⟨target, all⟩ := List.forall_mem_cons.mp all
    rw [List.flatMap_cons, target.notices, ih all]
    rfl

namespace CommandLine

variable {words : List String} {environment : Environment} {files : Files} {arguments : Arguments} {filter : LogFilter}
  {config : EvaluatorConfig} {declarations : List Declaration}

/-- What a run on targets tells: that each was accepted, and that all of them were selected. -/
theorem selectionLog_of_targets {targets : List Declaration} (all : ∀ d ∈ targets, d.IsTarget) :
    selectionLog targets = List.replicate targets.length (logRecord (.logged (.finalized true 1))) ++
      [selectionRecord targets.length targets.length] := by
  rw [selectionLog, flatMap_notices all, List.map_replicate, filter_targets all]

/-- What is shown as JSON can be read again, and these are the targets. A run on it, under any configuration that can be
used and with any log, rejects none of them, selects all of them and shows the same text. -/
theorem output_fixed_point (accepted : Request.ofWords? environment.config words = some (.selection arguments))
    (filtered : LogFilter.choose environment.log arguments.log = .ok filter) (json : arguments.json = true)
    (ready : arguments.Ready files config declarations) :
    let targets := declarations.filter (·.IsTarget)
    let text := (run words environment files).output
    (run words environment files).exitCode = 0 ∧
    Declaration.listOfText text = .ok targets ∧
    (∀ evaluator, (selectBuilderTargets evaluator targets).targets = .ok targets ∧
      (selectBuilderTargets evaluator targets).rejections = []) ∧
    ∀ words' environment' files' arguments' filter' config',
      Request.ofWords? environment'.config words' = some (.selection arguments') →
      LogFilter.choose environment'.log arguments'.log = .ok filter' → arguments'.json = true →
      arguments'.Resolves files' config' → 1 ≤ config'.maxAttempts.toNat →
      files' arguments'.declarations = Contents.ofBytes text.toUTF8 →
      run words' environment' files' =
        .done ((List.replicate targets.length (logRecord (.logged (.finalized true 1))) ++
          [selectionRecord targets.length targets.length]).filter filter'.shows) text := by
  intro targets text
  have all : ∀ d ∈ targets, d.IsTarget := fun d member => of_decide_eq_true (List.mem_filter.mp member).2
  have shown := run_of_ready accepted filtered ready
  rw [json] at shown
  have textIs : text = showTargets true targets := congrArg Outcome.output shown
  have loads : Declaration.listOfText text = .ok targets := textIs ▸ listOfText_showTargets targets
  refine ⟨congrArg Outcome.exitCode shown, loads, fun evaluator => ?_, ?_⟩
  · rw [Selection.rejections, selectBuilderTargets_eq, filter_targets all, flatMap_notices all]
    refine ⟨rfl, ?_⟩
    simp [Notice.rejection?]
  · intro words' environment' files' arguments' filter' config' accepted' filtered' json' resolves positive written
    have ready' : arguments'.Ready files' config' targets :=
      ⟨resolves, positive, text, written.trans (Contents.ofBytes_toUTF8 text), loads⟩
    rw [run_of_ready accepted' filtered' ready', json', selectionLog_of_targets all, filter_targets all, textIs]

/-- A name with a control character, and a modifier that is repeated. -/
theorem output_fixed_point_escaped :
    let files : Files := fun _ => .ok "[[\"B\", \"object\"], [\"é\\u000a\", \"class\", [\"data\", \"data\"]]]"
    let text := "[\n  \x7b\n    \"name\": \"é\\n\",\n    \"kind\": \"class\",\n    \"modifiers\": [\n      \"data\",\n      " ++
      "\"data\"\n    ],\n    \"has_primary_constructor\": true\n  \x7d\n]\n"
    (run ["d.json", "--json"] ⟨none, some ""⟩ files).output = text ∧
    Declaration.listOfText text = .ok [⟨"é\n", .plainClass, [.data, .data], true⟩] ∧
    run ["t.json", "--json", "--max-attempts=1"] ⟨none, some ""⟩ (fun _ => Contents.ofBytes text.toUTF8) =
      .done [] text := by
  intro files text
  have accepted : Request.ofWords? none ["d.json", "--json"] =
      some (.selection ⟨"d.json", none, none, none, true⟩) := by cbv
  have accepted' : Request.ofWords? none ["t.json", "--json", "--max-attempts=1"] =
      some (.selection ⟨"t.json", none, some 1, none, true⟩) := by cbv
  have filtered : LogFilter.choose (some "") none = .ok ⟨[]⟩ := by
    rw [LogFilter.choose, Option.map_some, parse_empty]
  have loaded : Declaration.listOfText
      "[[\"B\", \"object\"], [\"é\\u000a\", \"class\", [\"data\", \"data\"]]]" =
      .ok [⟨"B", .object, [], true⟩, ⟨"é\n", .plainClass, [.data, .data], true⟩] := by cbv
  have ready : Arguments.Ready ⟨"d.json", none, none, none, true⟩ files {}
      [⟨"B", .object, [], true⟩, ⟨"é\n", .plainClass, [.data, .data], true⟩] :=
    ⟨⟨{}, .default, rfl⟩, by decide, _, rfl, loaded⟩
  have shown : (run ["d.json", "--json"] ⟨none, some ""⟩ files).output = text := by
    have pretty : showTargets true [⟨"é\n", .plainClass, [.data, .data], true⟩] = text := by
      unfold text
      cbv
    exact (congrArg Outcome.output (run_of_ready accepted filtered ready)).trans pretty
  obtain ⟨-, loads, -, again⟩ := @output_fixed_point _ ⟨none, some ""⟩ files _ _ _ _ accepted filtered rfl ready
  rw [shown] at loads again
  have resolves' : Arguments.Resolves ⟨"t.json", none, some 1, none, true⟩ (fun _ => Contents.ofBytes text.toUTF8) ⟨1⟩ :=
    ⟨{}, .default, rfl⟩
  exact ⟨shown, loads, again _ ⟨none, some ""⟩ _ _ _ _ accepted' filtered rfl resolves' (by decide) rfl⟩

end CommandLine

end Adjudication
