import Adjudication.Proofs.Evaluation.Course
import Adjudication.Proofs.Evaluation.History

/-!
# Filtering

A filter decides one item after the other. `Evaluator.Visits` are the items it came through, each decided by an
evaluation of its own that knows nothing of the others but the state they left. `filter_eq_iff` says what comes of a
filter from them, and where it stops; `filter_append` that a list can be filtered in parts.
-/

namespace Adjudication

/-- An item that was decided: whether it is kept, and the world that its own evaluation left, with what it wrote. -/
structure Visit (α σ τ : Type) where
  item : α
  keep : Bool
  left : World σ τ

variable {α κ ε η σ τ : Type}

def keptOf (visits : List (Visit α σ τ)) : List α := (visits.filter (·.keep)).map (·.item)

def writtenBy (visits : List (Visit α σ τ)) : List τ := visits.flatMap (·.left.trace)

theorem keptOf_cons (item : α) (keep : Bool) (left : World σ τ) (visits : List (Visit α σ τ)) :
    keptOf (⟨item, keep, left⟩ :: visits) = (if keep then [item] else []) ++ keptOf visits := by
  cases keep <;> rfl

theorem writtenBy_cons (item : α) (keep : Bool) (left : World σ τ) (visits : List (Visit α σ τ)) :
    writtenBy (⟨item, keep, left⟩ :: visits) = left.trace ++ writtenBy visits := rfl

variable [DecidableEq κ] [Failure ε κ] [Recorder κ τ]

/-- Items that are decided in turn, from a state to a state: each by an evaluation that starts afresh, in the state that
the item before it left. -/
inductive Evaluator.Visits (evaluator : Evaluator) (respond : η → Fault ε → Routine κ ε η σ τ Option Empty)
    (routine : α → Routine κ ε η σ τ Option Empty) : σ → List (Visit α σ τ) → σ → Prop where
  | nil (s : σ) : Visits evaluator respond routine s [] s
  | cons {s item keep left visits s'}
      (decided : evaluator.decide respond (routine item) { state := s } = some (.ok keep, left))
      (rest : Visits evaluator respond routine left.state visits s') :
      Visits evaluator respond routine s (⟨item, keep, left⟩ :: visits) s'

/-- What comes of filtering a list in a world: all its items are decided, or the first one whose evaluation has an error
or does not end is where it stops, whatever comes later. -/
inductive Evaluator.Filters (evaluator : Evaluator) (respond : η → Fault ε → Routine κ ε η σ τ Option Empty)
    (routine : α → Routine κ ε η σ τ Option Empty) (w : World σ τ) :
    List α → Option (Except (DecisionError ε) (List α) × World σ τ) → Prop where
  | decided {visits s} (visited : Visits evaluator respond routine w.state visits s) :
      Filters evaluator respond routine w (visits.map (·.item))
        (some (.ok (keptOf visits), w.after (writtenBy visits) s))
  | failed {visits s item e left} (later : List α) (visited : Visits evaluator respond routine w.state visits s)
      (fails : evaluator.decide respond (routine item) { state := s } = some (.error e, left)) :
      Filters evaluator respond routine w (visits.map (·.item) ++ item :: later)
        (some (.error e, w.after (writtenBy visits ++ left.trace) left.state))
  | endless {visits s item} (later : List α) (visited : Visits evaluator respond routine w.state visits s)
      (never : evaluator.decide respond (routine item) { state := s } = none) :
      Filters evaluator respond routine w (visits.map (·.item) ++ item :: later) none

/-- Filters on where a filter had no error: what both keep is kept, and an error of either is the error of both. -/
def filterOn {m : Type → Type} [Monad m] (first : m (Except (DecisionError ε) (List α) × World σ τ))
    (second : World σ τ → m (Except (DecisionError ε) (List α) × World σ τ)) :
    m (Except (DecisionError ε) (List α) × World σ τ) := do
  let (answer, w) ← first
  match answer with
  | .error e => pure (.error e, w)
  | .ok kept => do
    let (answer, w) ← second w
    pure (answer.map (kept ++ ·), w)

section Appending

variable {m : Type → Type} [Monad m] [LawfulMonad m] {e : DecisionError ε} {kept : List α} {w : World σ τ}

omit [DecidableEq κ] [Failure ε κ] [Recorder κ τ]

@[simp] theorem filterOn_error (second : World σ τ → m (Except (DecisionError ε) (List α) × World σ τ)) :
    filterOn (pure (.error e, w)) second = pure (.error e, w) := by
  simp [filterOn]

theorem filterOn_ok (second : World σ τ → m (Except (DecisionError ε) (List α) × World σ τ)) :
    filterOn (pure (.ok kept, w)) second = (fun (answer, w) => (answer.map (kept ++ ·), w)) <$> second w := by
  simp [filterOn]

@[simp] theorem filterOn_ok_nil (second : World σ τ → m (Except (DecisionError ε) (List α) × World σ τ)) :
    filterOn (pure (.ok [], w)) second = second w := by
  have same : (fun (answer, w) => (answer.map ([] ++ ·), w)) =
      (id : Except (DecisionError ε) (List α) × World σ τ → _) := by
    funext (answer, w)
    cases answer <;> rfl
  rw [filterOn_ok, same, id_map]

theorem filterOn_assoc (first : m (Except (DecisionError ε) (List α) × World σ τ))
    (second third : World σ τ → m (Except (DecisionError ε) (List α) × World σ τ)) :
    filterOn (filterOn first second) third = filterOn first fun w => filterOn (second w) third := by
  simp only [filterOn, bind_assoc]
  refine bind_congr fun (answer, w) => ?_
  cases answer with
  | error e => simp
  | ok kept =>
    simp only [bind_assoc, pure_bind]
    refine bind_congr fun (answer, w) => ?_
    cases answer with
    | error e => simp [Except.map]
    | ok more =>
      simp only [Except.map, bind_assoc, pure_bind]
      refine bind_congr fun (answer, w) => ?_
      cases answer <;> simp

end Appending

namespace Evaluator

section

variable {m : Type → Type} [Monad m] [LawfulMonad m] {respond : η → Fault ε → Routine κ ε η σ τ m Empty}
  {routine : α → Routine κ ε η σ τ m Empty} {evaluator : Evaluator} {w : World σ τ}

theorem filter_one (item : α) :
    evaluator.filter respond routine [item] w =
      (fun (answer, w) => (answer.map fun keep => if keep then [item] else [], w)) <$>
        evaluator.decide respond (routine item) w := by
  simp only [filter, map_eq_pure_bind]
  refine bind_congr fun (answer, w') => ?_
  cases answer with
  | error e => rfl
  | ok keep => cases keep <;> simp [Except.map]

theorem filter_cons (item : α) (items : List α) :
    evaluator.filter respond routine (item :: items) w =
      filterOn (evaluator.filter respond routine [item] w) (evaluator.filter respond routine items) := by
  rw [filter_one, filter]
  simp only [filterOn, bind_map_left]
  refine bind_congr fun (answer, w') => ?_
  cases answer with
  | error e => rfl
  | ok keep =>
    refine bind_congr fun (answer, w') => ?_
    cases answer <;> cases keep <;> rfl

/-- Filtering two lists together is filtering one and then, if there was no error, the other. -/
theorem filter_append (xs ys : List α) :
    evaluator.filter respond routine (xs ++ ys) w =
      filterOn (evaluator.filter respond routine xs w) (evaluator.filter respond routine ys) := by
  induction xs generalizing w with
  | nil => exact (filterOn_ok_nil _).symm
  | cons x xs ih =>
    rw [List.cons_append, filter_cons, filter_cons x xs, filterOn_assoc]
    exact congrArg _ (funext fun _ => ih)

theorem filter_one_fresh (evaluator : Evaluator) (respond : η → Fault ε → Routine κ ε η σ τ m Empty)
    (routine : α → Routine κ ε η σ τ m Empty) (item : α) (w : World σ τ) :
    evaluator.filter respond routine [item] w =
      (fun (answer, left) => (answer.map fun keep => if keep then [item] else [], left.onto w)) <$>
        evaluator.decide respond (routine item) { state := w.state } := by
  rw [filter_one, decide_eq_fresh, Functor.map_map]

end

variable {evaluator : Evaluator} {respond : η → Fault ε → Routine κ ε η σ τ Option Empty}
  {routine : α → Routine κ ε η σ τ Option Empty} {items later : List α} {item : α} {e : DecisionError ε}
  {w left : World σ τ} {s : σ} {visits : List (Visit α σ τ)}

/-! ### Items in turn -/

theorem Visits.filter_eq (visited : evaluator.Visits respond routine w.state visits s) :
    evaluator.filter respond routine (visits.map (·.item)) w =
      some (.ok (keptOf visits), w.after (writtenBy visits) s) := by
  induction visits generalizing w with
  | nil =>
    cases visited
    rfl
  | cons visit visits ih =>
    cases visited with
    | @cons _ item keep left _ _ decided rest =>
      have first := filter_one_fresh evaluator respond routine item w
      have others := ih (w := left.onto w) rest
      rw [decided] at first
      rw [List.map_cons, filter_cons, first]
      refine (filterOn_ok _).trans ?_
      rw [others, keptOf_cons, writtenBy_cons, World.onto, World.after_after]
      rfl

theorem Visits.filter_append_eq (visited : evaluator.Visits respond routine w.state visits s) (items : List α) :
    evaluator.filter respond routine (visits.map (·.item) ++ items) w =
      (fun (answer, w') => (answer.map (keptOf visits ++ ·), w')) <$>
        evaluator.filter respond routine items (w.after (writtenBy visits) s) := by
  rw [filter_append, visited.filter_eq]
  exact filterOn_ok _

theorem filter_cons_of_error
    (fails : evaluator.decide respond (routine item) { state := w.state } = some (.error e, left)) :
    evaluator.filter respond routine (item :: later) w = some (.error e, left.onto w) := by
  rw [filter_cons, filter_one_fresh, fails]
  exact filterOn_error _

theorem filter_cons_of_none (endless : evaluator.decide respond (routine item) { state := w.state } = none) :
    evaluator.filter respond routine (item :: later) w = none := by
  rw [filter_cons, filter_one_fresh, endless]
  rfl

/-- The items of a list are decided in turn, up to the first one whose evaluation has an error or does not end. -/
theorem visits_or_first (evaluator : Evaluator) (respond : η → Fault ε → Routine κ ε η σ τ Option Empty)
    (routine : α → Routine κ ε η σ τ Option Empty) (items : List α) (s : σ) :
    ∃ visits s', evaluator.Visits respond routine s visits s' ∧
      (items = visits.map (·.item) ∨ ∃ item later, items = visits.map (·.item) ++ item :: later ∧
        ((∃ e left, evaluator.decide respond (routine item) { state := s' } = some (.error e, left)) ∨
          evaluator.decide respond (routine item) { state := s' } = none)) := by
  induction items generalizing s with
  | nil => exact ⟨[], s, .nil s, .inl rfl⟩
  | cons item items ih =>
    cases decided : evaluator.decide respond (routine item) { state := s } with
    | none => exact ⟨[], s, .nil s, .inr ⟨item, items, rfl, .inr decided⟩⟩
    | some out =>
      obtain ⟨e | keep, left⟩ := out
      · exact ⟨[], s, .nil s, .inr ⟨item, items, rfl, .inl ⟨e, left, decided⟩⟩⟩
      · obtain ⟨visits, s', visited, rfl | ⟨first, later, rfl, fails⟩⟩ := ih left.state
        · exact ⟨⟨item, keep, left⟩ :: visits, s', .cons decided visited, .inl rfl⟩
        · exact ⟨⟨item, keep, left⟩ :: visits, s', .cons decided visited, .inr ⟨first, later, rfl, fails⟩⟩

theorem Filters.filter_eq {out : Option (Except (DecisionError ε) (List α) × World σ τ)}
    (filters : evaluator.Filters respond routine w items out) : evaluator.filter respond routine items w = out := by
  cases filters with
  | decided visited => exact visited.filter_eq
  | failed later visited fails =>
    rw [visited.filter_append_eq, filter_cons_of_error fails, World.onto, World.after_after]
    rfl
  | endless later visited never =>
    rw [visited.filter_append_eq, filter_cons_of_none never]
    rfl

theorem exists_filters (evaluator : Evaluator) (respond : η → Fault ε → Routine κ ε η σ τ Option Empty)
    (routine : α → Routine κ ε η σ τ Option Empty) (items : List α) (w : World σ τ) :
    ∃ out, evaluator.Filters respond routine w items out := by
  obtain ⟨visits, s, visited, rfl | ⟨item, later, rfl, ⟨e, left, fails⟩ | never⟩⟩ :=
    visits_or_first evaluator respond routine items w.state
  · exact ⟨_, .decided visited⟩
  · exact ⟨_, .failed later visited fails⟩
  · exact ⟨_, .endless later visited never⟩

theorem filter_eq_iff {out : Option (Except (DecisionError ε) (List α) × World σ τ)} :
    evaluator.filter respond routine items w = out ↔ evaluator.Filters respond routine w items out := by
  refine ⟨fun filtered => ?_, Filters.filter_eq⟩
  obtain ⟨other, filters⟩ := exists_filters evaluator respond routine items w
  cases filters.filter_eq.symm.trans filtered
  exact filters

theorem decide_eq_some_iff {routine : Routine κ ε η σ τ Option Empty} {answer : Except (DecisionError ε) Bool} :
    evaluator.decide respond routine w = some (answer, left) ↔
      ∃ p ending, evaluator.Reaches respond routine w p ∧ p.EndsIn evaluator.limit ending ∧
        ending.result = answer ∧ ending.world = left := by
  rw [decide_eq_drive]
  constructor
  · intro decided
    obtain ⟨ending, ended, same⟩ := Option.map_eq_some_iff.mp decided
    obtain ⟨p, reached, ends⟩ := drive_eq_some_iff.mp ended
    cases same
    exact ⟨p, ending, reached, ends, rfl, rfl⟩
  · rintro ⟨p, ending, reached, ends, rfl, rfl⟩
    rw [drive_eq_some_iff.mpr ⟨p, reached, ends⟩]
    rfl

end Evaluator

/-- A filter decides its items one after the other, each by an evaluation of its own: as the first attempt, with nothing
staged and nothing registered, in the state that the item before it left. Without an error, it keeps the items that were
accepted, in order, after all that was written for any of them. The first error ends it, as that item left everything,
and nothing is kept. So a list is filtered by filtering a beginning of it and then, if there was no error, the rest. -/
theorem filter_decides_each (evaluator : Evaluator) (respond : η → Fault ε → Routine κ ε η σ τ Option Empty)
    (routine : α → Routine κ ε η σ τ Option Empty) (w : World σ τ) :
    (∀ item s answer left, evaluator.decide respond (routine item) { state := s } = some (answer, left) ↔
      ∃ p ending, Relation.ReflTransGen (Step respond evaluator.limit) ⟨1, routine item, {}, ⟨s, []⟩, []⟩ p ∧
        p.EndsIn evaluator.limit ending ∧ ending.result = answer ∧ ending.world = left) ∧
    (∀ items out, evaluator.filter respond routine items w = out ↔ evaluator.Filters respond routine w items out) ∧
    (∀ xs ys, evaluator.filter respond routine (xs ++ ys) w =
      filterOn (evaluator.filter respond routine xs w) (evaluator.filter respond routine ys)) ∧
    ∀ (indexed : α × Nat → Routine κ ε η σ τ Option Empty) (xs ys : List α) (k : Nat),
      evaluator.filter respond indexed ((xs ++ ys).zipIdx k) w =
        filterOn (evaluator.filter respond indexed (xs.zipIdx k) w)
          (evaluator.filter respond indexed (ys.zipIdx (k + xs.length))) := by
  refine ⟨fun item s answer left => Evaluator.decide_eq_some_iff, fun items out => Evaluator.filter_eq_iff,
    fun xs ys => Evaluator.filter_append xs ys, fun indexed xs ys k => ?_⟩
  rw [List.zipIdx_append]
  exact Evaluator.filter_append _ _

end Adjudication
