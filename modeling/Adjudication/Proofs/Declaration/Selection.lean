import Adjudication.Proofs.Evaluation.History
import Adjudication.Proofs.Evaluation.Stop
import Adjudication.Selection

/-!
# What is selected

A declaration is a target, or some reason applies to it; the first one is reported. `selection_exact` says that just the
targets are selected and just the others are reported, and that nothing of this depends on the evaluator.
-/

namespace Adjudication

/-! ### Targets and reasons -/

/-- A concrete data class with a primary constructor. -/
structure Declaration.IsTarget (d : Declaration) : Prop where
  plainClass : d.kind = .plainClass
  data : .data ∈ d.modifiers
  not_abstract : .abstract ∉ d.modifiers
  not_sealed : .sealed ∉ d.modifiers
  constructible : d.hasPrimaryConstructor = true

namespace Reason

def Applies (d : Declaration) : Reason → Prop
  | .notAClass => d.kind ≠ .plainClass
  | .abstract => d.kind = .interface ∨ .abstract ∈ d.modifiers ∨ .sealed ∈ d.modifiers
  | .notDataClass => .data ∉ d.modifiers
  | .noPrimaryConstructor => d.hasPrimaryConstructor = false

instance (d : Declaration) : DecidablePred (Applies d)
  | .notAClass => inferInstanceAs (Decidable (d.kind ≠ .plainClass))
  | .abstract => inferInstanceAs (Decidable (d.kind = .interface ∨ .abstract ∈ d.modifiers ∨ .sealed ∈ d.modifiers))
  | .notDataClass => inferInstanceAs (Decidable (.data ∉ d.modifiers))
  | .noPrimaryConstructor => inferInstanceAs (Decidable (d.hasPrimaryConstructor = false))

def inOrder : List Reason := [.notAClass, .abstract, .notDataClass, .noPrimaryConstructor]

theorem mem_inOrder (reason : Reason) : reason ∈ inOrder := by
  cases reason <;> decide

end Reason

namespace Declaration

variable {d : Declaration}

/-- The first reason that applies, in the order of `Reason.inOrder`. -/
def firstReason? (d : Declaration) : Option Reason := Reason.inOrder.find? fun reason => reason.Applies d

theorem firstReason?_eq_none_iff : d.firstReason? = none ↔ ∀ reason : Reason, ¬ reason.Applies d := by
  simp [firstReason?, Reason.mem_inOrder]

/-- A declaration is a target just if no reason applies to it. -/
theorem isTarget_iff : d.IsTarget ↔ d.firstReason? = none := by
  rw [firstReason?_eq_none_iff]
  constructor
  · intro target reason applies
    cases reason with
    | notAClass => exact applies target.plainClass
    | abstract =>
      rcases applies with interface | abstract | sealed
      · cases target.plainClass.symm.trans interface
      · exact target.not_abstract abstract
      · exact target.not_sealed sealed
    | notDataClass => exact applies target.data
    | noPrimaryConstructor => cases target.constructible.symm.trans applies
  · intro none
    have concrete := not_or.mp (none .abstract)
    have sound := not_or.mp concrete.2
    exact ⟨Decidable.not_not.mp (none .notAClass), Decidable.not_not.mp (none .notDataClass), sound.1, sound.2,
      eq_true_of_ne_false (none .noPrimaryConstructor)⟩

instance : DecidablePred IsTarget := fun _ => decidable_of_iff' _ isTarget_iff

theorem checks_eq (d : Declaration) :
    d.checks = Reason.inOrder.map fun reason => (decide (reason.Applies d), reason) := by
  have kind : (d.kind != .plainClass) = decide (d.kind ≠ .plainClass) := by
    cases d.kind <;> rfl
  have abstract : d.isAbstract = decide (d.kind = .interface ∨ .abstract ∈ d.modifiers ∨ .sealed ∈ d.modifiers) := by
    have interface : (d.kind == .interface) = decide (d.kind = .interface) := rfl
    simp [isAbstract, hasModifier, Bool.or_assoc, interface]
  have data : (!d.hasModifier .data) = decide (.data ∉ d.modifiers) := by
    simp [hasModifier]
  have constructible : (!d.hasPrimaryConstructor) = decide (d.hasPrimaryConstructor = false) := by
    cases d.hasPrimaryConstructor <;> rfl
  rw [checks, kind, abstract, data, constructible]
  rfl

/-- What is told about a declaration: that it was accepted, or why it was rejected, in the first attempt. -/
def notices (d : Declaration) : List Notice :=
  match d.firstReason? with
  | none => [.logged (.finalized true 1)]
  | some reason => [.rejected ⟨d, reason⟩, .logged (.finalized false 1)]

/-- Why a declaration is rejected, if it is. -/
def rejection? (d : Declaration) : Option Rejection := d.firstReason?.map fun reason => ⟨d, reason⟩

end Declaration

def Notice.rejection? : Notice → Option Rejection
  | .rejected rejection => some rejection
  | .logged _ => none

/-- The rejections that are reported, in order. -/
def Selection.rejections (selection : Selection) : List Rejection := selection.notices.filterMap Notice.rejection?

/-! ### One declaration -/

variable (evaluator : Evaluator) (respond : Empty → Fault Empty → Review Empty)

/-- A review ends with the first reason that applies. -/
theorem stopIn_checks (d : Declaration) (reasons : List Reason) (n : Nat) (w : World Unit Notice) :
    (do
      (reasons.map fun reason => (decide (reason.Applies d), reason)).forM fun (applies, reason) =>
        Routine.rejectIfThen (fun _ => (applies, [], ())) (d.report reason)
      Routine.accept : Review Empty).stopIn n {} w =
    match reasons.find? fun reason => reason.Applies d with
    | none => (.decided, { verdict := .accept }, w)
    | some reason => (.decided, { verdict := .reject }, w.after [.rejected ⟨d, reason⟩] ()) := by
  induction reasons with
  | nil => rfl
  | cons reason reasons ih =>
    rw [List.map_cons, List.find?_cons]
    cases decide (reason.Applies d) with
    | true => rfl
    | false => exact ih

theorem stopIn_review (d : Declaration) (n : Nat) (w : World Unit Notice) :
    d.review.stopIn n {} w =
      match d.firstReason? with
      | none => (.decided, { verdict := .accept }, w)
      | some reason => (.decided, { verdict := .reject }, w.after [.rejected ⟨d, reason⟩] ()) := by
  rw [Declaration.review, d.checks_eq]
  exact stopIn_checks d Reason.inOrder n w

theorem resume_review (limit : Nat) (keep : Bool) (w : World Unit Notice) :
    Evaluator.resume respond limit 1 .decided { verdict := .ofBool keep } w =
      ⟨.ok keep, 1, { verdict := .ofBool keep }, w.record (.finalized keep 1)⟩ :=
  Evaluator.resume_ended (Turn.settle_of_concludes (.decided rfl))

/-- A declaration is decided in the first attempt, whatever the ceiling is. -/
theorem drive_review (d : Declaration) (w : World Unit Notice) :
    evaluator.drive respond d.review w =
      ⟨.ok (decide d.IsTarget), 1, { verdict := .ofBool (decide d.IsTarget) }, w.after d.notices ()⟩ := by
  have stops := stopIn_review d 1 w
  rw [Evaluator.drive, Evaluator.complete, stops]
  cases first : d.firstReason? with
  | none =>
    have target : decide d.IsTarget = true := decide_eq_true (Declaration.isTarget_iff.mpr first)
    rw [Declaration.notices, first, target]
    exact resume_review respond evaluator.limit true w
  | some reason =>
    have other : decide d.IsTarget = false := decide_eq_false fun target => by
      cases (Declaration.isTarget_iff.mp target).symm.trans first
    rw [Declaration.notices, first, other]
    exact resume_review respond evaluator.limit false _

/-! ### A list of declarations -/

theorem filter_review (declarations : List Declaration) (w : World Unit Notice) :
    evaluator.filter respond Declaration.review declarations w =
      (.ok (declarations.filter (·.IsTarget)), w.after (declarations.flatMap Declaration.notices) ()) := by
  induction declarations generalizing w with
  | nil => rfl
  | cons d declarations ih =>
    have decided : evaluator.decide respond d.review w = (.ok (decide d.IsTarget), w.after d.notices ()) := by
      rw [Evaluator.decide_eq_drive, drive_review]
      rfl
    have rest := ih (w.after d.notices ())
    rw [World.after_after] at rest
    have step : evaluator.filter respond Declaration.review (d :: declarations) w =
        (fun (kept, w) => (kept.map fun rest => if decide d.IsTarget then d :: rest else rest, w))
          (evaluator.filter respond Declaration.review declarations (w.after d.notices ())) := by
      rw [Evaluator.filter, decided]
      rfl
    rw [step, rest, List.filter_cons, List.flatMap_cons]
    rfl

theorem selectBuilderTargets_eq (declarations : List Declaration) :
    selectBuilderTargets evaluator declarations =
      ⟨.ok (declarations.filter (·.IsTarget)), declarations.flatMap Declaration.notices⟩ := by
  have trace : (World.after ⟨(), []⟩ (declarations.flatMap Declaration.notices) ()).trace =
      declarations.flatMap Declaration.notices := World.trace_after _ _ _
  rw [selectBuilderTargets, filter_review]
  exact congrArg (Selection.mk _) trace

theorem rejections_eq (declarations : List Declaration) :
    (declarations.flatMap Declaration.notices).filterMap Notice.rejection? =
      declarations.filterMap Declaration.rejection? := by
  induction declarations with
  | nil => rfl
  | cons d declarations ih =>
    rw [List.flatMap_cons, List.filterMap_append, ih, List.filterMap_cons, Declaration.notices, Declaration.rejection?]
    cases d.firstReason? <;> rfl

theorem rejected_eq (declarations : List Declaration) :
    (declarations.filterMap Declaration.rejection?).map Rejection.declaration =
      declarations.filter (¬ ·.IsTarget) := by
  induction declarations with
  | nil => rfl
  | cons d declarations ih =>
    rw [List.filterMap_cons, List.filter_cons, Declaration.rejection?]
    cases first : d.firstReason? with
    | none => simpa [Declaration.isTarget_iff, first] using ih
    | some reason => simpa [Declaration.isTarget_iff, first] using ih

/-- A selection keeps just the targets, in order and as often as they are there, and reports every other declaration
once, in order, with the first reason that applies to it; so each declaration is either kept or reported. It cannot fail
and does not depend on the ceiling, as each declaration is decided in the first attempt. -/
theorem selection_exact (declarations : List Declaration) :
    let selection := selectBuilderTargets evaluator declarations
    selection.targets = .ok (declarations.filter (·.IsTarget)) ∧
    selection.rejections = declarations.filterMap Declaration.rejection? ∧
    selection.rejections.map Rejection.declaration = declarations.filter (¬ ·.IsTarget) ∧
    (declarations.filter (·.IsTarget) ++ selection.rejections.map Rejection.declaration).Perm declarations ∧
    selection.notices = declarations.flatMap Declaration.notices ∧
    (∀ other, selectBuilderTargets other declarations = selection) ∧
    ∀ respond d w, (evaluator.drive respond (Declaration.review d) w).attempts = 1 ∧
      (evaluator.drive respond (Declaration.review d) w).result = .ok (decide d.IsTarget) := by
  intro selection
  have selected : selection = ⟨.ok (declarations.filter (·.IsTarget)), declarations.flatMap Declaration.notices⟩ :=
    selectBuilderTargets_eq evaluator declarations
  have rejections : selection.rejections = declarations.filterMap Declaration.rejection? := by
    rw [selected]
    exact rejections_eq declarations
  have rejected : selection.rejections.map Rejection.declaration = declarations.filter (¬ ·.IsTarget) := by
    rw [rejections]
    exact rejected_eq declarations
  refine ⟨by rw [selected], rejections, rejected, ?_, by rw [selected], fun other => ?_, fun respond d w => ?_⟩
  · rw [rejected]
    simpa using List.filter_append_perm (·.IsTarget) declarations
  · rw [selected, selectBuilderTargets_eq]
  · rw [drive_review]
    exact ⟨rfl, rfl⟩

end Adjudication
