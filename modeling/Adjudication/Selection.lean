import Adjudication.Declaration.Basic
import Adjudication.Evaluator

/-!
# Selecting builder targets

A builder can be generated for concrete data classes with a primary constructor. Every other declaration is
reported once, with the first reason that applies.
-/

namespace Adjudication

/-- What is told about a selection: the rejections, and the events of the evaluations. -/
inductive Notice where
  | rejected (rejection : Rejection)
  | logged (event : Event Empty)

instance : Recorder Empty Notice := ⟨.logged⟩

/-- A routine that cannot fail, for which nothing can be registered. It works on no state, only on notices. -/
abbrev Review := Routine Empty Empty Empty Unit Notice Id

namespace Declaration

/-- What is wrong with a declaration as the target of a builder: each reason, and whether it applies. -/
def checks (d : Declaration) : List (Bool × Reason) := [
  (d.kind != .plainClass, .notAClass),
  (d.isAbstract, .abstract),
  (!d.hasModifier .data, .notDataClass),
  (!d.hasPrimaryConstructor, .noPrimaryConstructor)]

def report (d : Declaration) (reason : Reason) : Effect Empty Unit Notice Id :=
  fun _ => (.ok (), [.rejected ⟨d, reason⟩], ())

/-- Rejects and reports a declaration for the first check that applies, and accepts it if none does. -/
def review (d : Declaration) : Review Empty := do
  d.checks.forM fun (applies, reason) => Routine.rejectIfThen (fun _ => (applies, [], ())) (d.report reason)
  Routine.accept

end Declaration

structure Selection where
  targets : Except (DecisionError Empty) (List Declaration)
  notices : List Notice

def selectBuilderTargets (evaluator : Evaluator) (declarations : List Declaration) : Selection :=
  let (targets, w) :=
    Id.run (evaluator.filter (fun handler _ => nomatch handler) Declaration.review declarations ⟨(), []⟩)
  ⟨targets, w.trace⟩

end Adjudication
