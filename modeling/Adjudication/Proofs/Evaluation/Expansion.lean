import Adjudication.Proofs.Evaluation.BigStep
import Adjudication.Proofs.Evaluation.Course
import Adjudication.Script.Play

/-!
# What primitives stand for

Most primitives are short for others. `drive_expanded` says that an evaluation cannot tell them from what they stand for,
wherever they are in the routine and in the bodies of its handlers: it comes to the same points, and to the same end.
-/

namespace Adjudication

variable {κ ε η σ τ : Type}

/-! ### Expansions -/

def Predicate.not (p : Predicate σ τ Option) : Predicate σ τ Option := fun s =>
  (p s).map fun (holds, entries, s) => (!holds, entries, s)

theorem Predicate.not_not (p : Predicate σ τ Option) : p.not.not = p := by
  funext s
  unfold Predicate.not
  cases p s <;> simp

namespace Routine

/-- The primitives that ask a question, and what they stand for. -/
inductive Asking : {α : Type} → (Predicate σ τ Option → Routine κ ε η σ τ Option α) →
    (Predicate σ τ Option → Routine κ ε η σ τ Option α) → Prop where
  | acceptIf : Asking acceptIf fun p => do if ← act p then never accept
  | rejectIf : Asking rejectIf fun p => do if ← act p then never reject
  | acceptIfThen (effect : Effect ε σ τ Option) :
      Asking (acceptIfThen · effect) fun p => do if ← act p then never (acceptThen effect)
  | rejectIfThen (effect : Effect ε σ τ Option) :
      Asking (rejectIfThen · effect) fun p => do if ← act p then never (rejectThen effect)
  | decideOn : Asking decideOn fun p => do
      Routine.acceptIf p
      reject
  | decideOn_not : Asking decideOn fun p => do
      Routine.rejectIf p.not
      accept
  | decideOnThen (onAccept onReject : Effect ε σ τ Option) : Asking (decideOnThen · onAccept onReject) fun p => do
      Routine.acceptIfThen p onAccept
      rejectThen onReject
  | decideOnThen_not (onAccept onReject : Effect ε σ τ Option) : Asking (decideOnThen · onAccept onReject) fun p => do
      Routine.rejectIfThen p.not onReject
      acceptThen onAccept

/-- The primitives that finalize without a question, and what they stand for. -/
inductive Finalizing : Routine κ ε η σ τ Option Empty → Routine κ ε η σ τ Option Empty → Prop where
  | accept : Finalizing accept do
      setAccept
      decide
  | reject : Finalizing reject do
      setReject
      decide
  | acceptThen (effect : Effect ε σ τ Option) : Finalizing (acceptThen effect) do
      setAccept
      perform effect
      decide
  | rejectThen (effect : Effect ε σ τ Option) : Finalizing (rejectThen effect) do
      setReject
      perform effect
      decide

/-- The same routine with some primitives in place of what they stand for, or the other way round. They may be anywhere:
before or after other parts, in what depends on values that were given before, and in parts whose end is observed. -/
inductive Rewritten : {α : Type} → Routine κ ε η σ τ Option α → Routine κ ε η σ τ Option α → Prop where
  | asking {α : Type} {form form' : Predicate σ τ Option → Routine κ ε η σ τ Option α} (expands : Asking form form')
      (p : Predicate σ τ Option) : Rewritten (form p) (form' p)
  | finalizing {x y : Routine κ ε η σ τ Option Empty} (expands : Finalizing x y) : Rewritten x y
  | same {α : Type} (x : Routine κ ε η σ τ Option α) : Rewritten x x
  | back {α : Type} {x y : Routine κ ε η σ τ Option α} (rewritten : Rewritten x y) : Rewritten y x
  | bind {α β : Type} {x y : Routine κ ε η σ τ Option α} {next next' : α → Routine κ ε η σ τ Option β}
      (first : Rewritten x y) (rest : ∀ a, Rewritten (next a) (next' a)) : Rewritten (x >>= next) (y >>= next')
  | observe {α : Type} {x y : Routine κ ε η σ τ Option α} (rewritten : Rewritten x y) : Rewritten x.observe y.observe

theorem Rewritten.branch {α : Type} {x x' y y' : Routine κ ε η σ τ Option α} (holds : Bool) (yes : x.Rewritten x')
    (no : y.Rewritten y') : (if holds then x else y).Rewritten (if holds then x' else y') := by
  cases holds with
  | true => exact yes
  | false => exact no

theorem Rewritten.times {x y : Script.Play Unit} (n : Nat) (rewritten : x.Rewritten y) :
    (Script.Play.times n x).Rewritten (Script.Play.times n y) := by
  induction n with
  | zero => exact .same _
  | succ _ ih => exact .bind rewritten fun _ => ih

/-! ### Steps that do nothing -/

/-- The same operations in both routines, up to questions with the other answer and up to effects that do nothing. -/
inductive Interchanges {α : Type} : Routine κ ε η σ τ Option α → Routine κ ε η σ τ Option α → Prop where
  | done (value : α) : Interchanges (.done value) (.done value)
  | stop (reason : Interrupt ε) : Interchanges (.stop reason) (.stop reason)
  | call {β : Type} {next next'} (operation : Operation κ η σ τ Option β)
      (rest : ∀ given, Interchanges (next given) (next' given)) :
      Interchanges (.call operation next) (.call operation next')
  | negated {next next'} (p : Predicate σ τ Option) (rest : ∀ holds, Interchanges (next holds) (next' !holds)) :
      Interchanges (.call (.act p) next) (.call (.act p.not) next')
  | idle_left {next y} (rest : Interchanges (next (.ok ())) y) :
      Interchanges (.call (.act (Effect.none : Effect ε σ τ Option)) next) y
  | idle_right {x next} (rest : Interchanges x (next (.ok ()))) :
      Interchanges x (.call (.act (Effect.none : Effect ε σ τ Option)) next)

namespace Interchanges

variable {α β : Type} {x y : Routine κ ε η σ τ Option α}

theorem refl (x : Routine κ ε η σ τ Option α) : x.Interchanges x := by
  induction x with
  | done value => exact .done value
  | stop reason => exact .stop reason
  | call operation _ ih => exact .call operation ih

theorem symm (same : x.Interchanges y) : y.Interchanges x := by
  induction same with
  | done value => exact .done value
  | stop reason => exact .stop reason
  | call operation _ ih => exact .call operation ih
  | negated p _ ih =>
    have turned := Interchanges.negated p.not fun holds => by
      have back := ih !holds
      rwa [Bool.not_not] at back
    rwa [Predicate.not_not] at turned
  | idle_left _ ih => exact .idle_right ih
  | idle_right _ ih => exact .idle_left ih

theorem bind {next next' : α → Routine κ ε η σ τ Option β} (first : x.Interchanges y)
    (rest : ∀ a, (next a).Interchanges (next' a)) : (x >>= next).Interchanges (y >>= next') := by
  induction first with
  | done value => exact rest value
  | stop reason => exact .stop reason
  | call operation _ ih => exact .call operation ih
  | negated p _ ih => exact .negated p ih
  | idle_left _ ih => exact .idle_left ih
  | idle_right _ ih => exact .idle_right ih

theorem observe (same : x.Interchanges y) : x.observe.Interchanges y.observe := by
  induction same with
  | done value => exact .done _
  | stop reason => exact .done _
  | call operation _ ih => exact .call operation ih
  | negated p _ ih => exact .negated p ih
  | idle_left _ ih => exact .idle_left ih
  | idle_right _ ih => exact .idle_right ih

theorem never_bind (x : Routine κ ε η σ τ Option Empty) (next : α → Routine κ ε η σ τ Option Empty) :
    x.Interchanges (never x >>= next) := by
  induction x with
  | done value => exact value.elim
  | stop reason => exact .stop reason
  | call operation _ ih => exact .call operation ih

end Interchanges

theorem decide_after_none (accepted : Bool) :
    (finalize accepted .none : Routine κ ε η σ τ Option Empty).Interchanges (stage accepted >>= fun _ => decide) :=
  .call (.stage accepted) fun _ => .idle_left (.stop .decided)

theorem Finalizing.interchanges {x y : Routine κ ε η σ τ Option Empty} (expands : Finalizing x y) :
    x.Interchanges y := by
  cases expands with
  | accept => exact decide_after_none true
  | reject => exact decide_after_none false
  | acceptThen effect => exact .refl (Routine.acceptThen effect)
  | rejectThen effect => exact .refl (Routine.rejectThen effect)

theorem Asking.interchanges {α : Type} {form form' : Predicate σ τ Option → Routine κ ε η σ τ Option α}
    (expands : Asking form form') (p : Predicate σ τ Option) : (form p).Interchanges (form' p) := by
  cases expands with
  | acceptIf => exact .refl (Routine.acceptIf p)
  | rejectIf => exact .refl (Routine.rejectIf p)
  | acceptIfThen effect => exact .refl (Routine.acceptIfThen p effect)
  | rejectIfThen effect => exact .refl (Routine.rejectIfThen p effect)
  | decideOn | decideOnThen =>
    refine .call (.act p) fun holds => ?_
    cases holds with
    | true => exact .never_bind _ _
    | false => exact .refl _
  | decideOn_not | decideOnThen_not =>
    refine .negated p fun holds => ?_
    cases holds with
    | true => exact .refl _
    | false => exact .never_bind _ _

/-- Each form asks its question first and once, and what it does then depends on the answer alone. -/
theorem Asking.asks_once {α : Type} {form form' : Predicate σ τ Option → Routine κ ε η σ τ Option α}
    (expands : Asking form form') :
    (∃ next : Bool → Routine κ ε η σ τ Option α, ∀ p, form p = act p >>= next) ∧
      ∃ next : Bool → Routine κ ε η σ τ Option α,
        (∀ p, form' p = act p >>= next) ∨ ∀ p, form' p = act p.not >>= next := by
  cases expands with
  | acceptIf | rejectIf | acceptIfThen | rejectIfThen | decideOn | decideOnThen =>
    exact ⟨⟨_, fun _ => rfl⟩, _, .inl fun _ => rfl⟩
  | decideOn_not | decideOnThen_not => exact ⟨⟨_, fun _ => rfl⟩, _, .inr fun _ => rfl⟩

theorem Rewritten.interchanges {α : Type} {x y : Routine κ ε η σ τ Option α} (rewritten : x.Rewritten y) :
    x.Interchanges y := by
  induction rewritten with
  | asking expands p => exact expands.interchanges p
  | finalizing expands => exact expands.interchanges
  | same x => exact .refl x
  | back _ ih => exact ih.symm
  | bind _ _ first rest => exact first.bind rest
  | observe _ ih => exact ih.observe

end Routine

/-! ### Evaluations -/

variable [DecidableEq κ] [Failure ε κ] [Recorder κ τ] {respond respond' : η → Fault ε → Routine κ ε η σ τ Option Empty}
  {routine routine' x y : Routine κ ε η σ τ Option Empty} {evaluator : Evaluator} {limit n : Nat}
  {d : Decision κ η} {w : World σ τ} {done : List (Deed κ ε η)} {p q : Point κ ε η σ τ} {ending : Ending κ ε η σ τ}

theorem Step.idle {next : Except ε Unit → Routine κ ε η σ τ Option Empty} :
    Step respond limit ⟨n, .call (.act (Effect.none : Effect ε σ τ Option)) next, d, w, done⟩
      ⟨n, next (.ok ()), d, w, done⟩ := by
  have answer : (Effect.none : Effect ε σ τ Option) w.state = some (.ok (), [], w.state) := rfl
  exact .act answer

/-- A step of an evaluation is some steps of the other, or none, to a point where as much is left. -/
theorem Step.interchanged (step : Step respond limit ⟨n, x, d, w, done⟩ q)
    (handlers : ∀ handler fault, (respond handler fault).Interchanges (respond' handler fault)) (same : x.Interchanges y) :
    ∃ rest, Relation.ReflTransGen (Step respond' limit) ⟨n, y, d, w, done⟩ { q with rest } ∧
      q.rest.Interchanges rest := by
  -- The right routine may have idle acts before the same step, and takes no step where that of the left one is idle.
  induction same with
  | done value => exact value.elim
  | stop reason =>
    cases step with
    | recover recovers => exact ⟨_, .single (.recover recovers), handlers _ _⟩
  | call operation rest =>
    cases step with
    | call returned => exact ⟨_, .single (.call returned), rest _⟩
  | negated p rest =>
    cases step with
    | @call n d w done _ holds _ _ _ _ returned =>
      obtain ⟨entries, s, answer, rfl, rfl⟩ := Operation.run_act_eq_some_iff.mp returned
      have turned : p.not w.state = some (!holds, entries, s) := by
        unfold Predicate.not
        rw [answer]
        rfl
      exact ⟨_, .single (by simpa [Operation.deeds] using Step.act turned), rest holds⟩
  | idle_left rest =>
    cases step with
    | @call n d w done _ _ _ _ _ _ returned =>
      cases returned
      exact ⟨_, by simpa [Operation.deeds, World.after] using Relation.ReflTransGen.refl, rest⟩
  | idle_right _ ih =>
    obtain ⟨rest, steps, alike⟩ := ih step
    exact ⟨rest, .head .idle steps, alike⟩

section

variable (handlers : ∀ handler fault, (respond handler fault).Interchanges (respond' handler fault))
  (same : routine.Interchanges routine')
include handlers same

theorem Evaluator.Reaches.interchanged (reached : evaluator.Reaches respond routine w p) :
    ∃ rest, evaluator.Reaches respond' routine' w { p with rest } ∧ p.rest.Interchanges rest := by
  induction reached with
  | refl => exact ⟨routine', .refl, same⟩
  | tail _ step ih =>
    obtain ⟨rest, reached, alike⟩ := ih
    obtain ⟨next, steps, after⟩ := step.interchanged handlers alike
    exact ⟨next, reached.trans steps, after⟩

omit handlers same in
theorem steps_to_stop_of_interchanges (p : Point κ ε η σ τ) {reason : Interrupt ε} (alike : x.Interchanges y)
    (stopped : x = .stop reason) :
    Relation.ReflTransGen (Step respond limit) { p with rest := y } { p with rest := .stop reason } := by
  induction alike with
  | stop =>
    rw [stopped]
  | idle_right _ ih => exact .head .idle (ih stopped)
  | done | call | negated | idle_left => cases stopped

theorem Evaluator.drive_of_interchanges (ended : evaluator.drive respond routine w = some ending) :
    evaluator.drive respond' routine' w = some ending := by
  obtain ⟨p, reached, reason, stopped, concludes⟩ := Evaluator.drive_eq_some_iff.mp ended
  obtain ⟨rest, reached', alike⟩ := reached.interchanged handlers same
  have steps : Relation.ReflTransGen (Step respond' evaluator.limit) { p with rest } { p with rest := .stop reason } :=
    steps_to_stop_of_interchanges p alike stopped
  exact Evaluator.drive_eq_some_iff.mpr ⟨_, reached'.trans steps, reason, rfl, concludes⟩

end

/-- With primitives in place of what they stand for, or the other way round, wherever they are in a routine and in the
bodies of its handlers, an evaluation ends just as before, or not at all as before: with the same result, attempts and
decision, and in the same world, after the same entries in the same order. On the way it comes to the same points, with
the same attempt, decision and world, and as much left to do. In each of the forms a question is asked just once. -/
theorem drive_expanded (evaluator : Evaluator) (respond respond' : η → Fault ε → Routine κ ε η σ τ Option Empty)
    (routine routine' : Routine κ ε η σ τ Option Empty) (w : World σ τ) (same : routine.Rewritten routine')
    (handlers : ∀ handler fault, (respond handler fault).Rewritten (respond' handler fault)) :
    evaluator.drive respond routine w = evaluator.drive respond' routine' w ∧
    (∀ p, evaluator.Reaches respond routine w p →
      ∃ rest, evaluator.Reaches respond' routine' w { p with rest } ∧ p.rest.Interchanges rest) ∧
    (∀ p, evaluator.Reaches respond' routine' w p →
      ∃ rest, evaluator.Reaches respond routine w { p with rest } ∧ p.rest.Interchanges rest) ∧
    ∀ (α : Type) (form form' : Predicate σ τ Option → Routine κ ε η σ τ Option α), Routine.Asking form form' →
      (∃ next : Bool → Routine κ ε η σ τ Option α, ∀ p, form p = Routine.act p >>= next) ∧
      ∃ next : Bool → Routine κ ε η σ τ Option α,
        (∀ p, form' p = Routine.act p >>= next) ∨ ∀ p, form' p = Routine.act p.not >>= next := by
  have there := same.interchanges
  have back := there.symm
  have each : ∀ handler fault, (respond handler fault).Interchanges (respond' handler fault) :=
    fun handler fault => (handlers handler fault).interchanges
  have eachBack : ∀ handler fault, (respond' handler fault).Interchanges (respond handler fault) :=
    fun handler fault => (each handler fault).symm
  refine ⟨?_, fun p reached => reached.interchanged each there, fun p reached => reached.interchanged eachBack back,
    fun α form form' expands => expands.asks_once⟩
  refine Option.ext fun ending => ⟨fun ended => ?_, fun ended => ?_⟩
  · exact Evaluator.drive_of_interchanges each there ended
  · exact Evaluator.drive_of_interchanges eachBack back ended

/-- A part that is repeated and whose end is swallowed, the branch after it, and a handler. -/
theorem drive_expanded_swallowed :
    let p : Predicate Script.Vars Script.Entry Option := fun vars => some (!vars.toList.isEmpty, [.said "asked"], vars)
    let failing : Effect Script.Mishap Script.Vars Script.Entry Option := fun vars =>
      some (.error ⟨"net", 7⟩, [.effect], ⟨("n", 1) :: vars.toList⟩)
    let saying : Effect Script.Mishap Script.Vars Script.Entry Option := fun vars => some (.ok (), [.effect], vars)
    let scene : Script.Play Unit → Script.Play Empty → Script.Play Empty := fun part final => do
      Routine.onErr "net" .done
      let _ ← (Script.Play.times 2 part).observe
      let verdict ← Routine.verdict
      if verdict.isDecided then Routine.decide else final
    let routine := scene (Routine.acceptIfThen p saying) (Routine.rejectThen failing)
    let routine' := scene (do if ← Routine.act p then Routine.never (Routine.acceptThen saying)) do
      Routine.setReject
      Routine.perform failing
      Routine.decide
    let respond : Script.Block → Fault Script.Mishap → Script.Play Empty := fun _ _ =>
      Routine.decideOnThen p saying failing
    let respond' : Script.Block → Fault Script.Mishap → Script.Play Empty := fun _ _ => do
      Routine.rejectIfThen p.not failing
      Routine.acceptThen saying
    let evaluator : Evaluator := ⟨⟨5⟩, by decide⟩
    let start : Script.World := ⟨{}, []⟩
    ∃ ending, evaluator.drive respond routine start = some ending ∧
      evaluator.drive respond' routine' start = some ending ∧ ending.result = .ok true ∧ ending.attempts = 2 := by
  intro p failing saying scene routine routine' respond respond' evaluator start
  have same : routine.Rewritten routine' :=
    .bind (.same _) fun _ => .bind (.observe (.times 2 (.asking (.acceptIfThen saying) p))) fun _ =>
      .bind (.same _) fun verdict => .branch verdict.isDecided (.same _) (.finalizing (.rejectThen failing))
  have handlers : ∀ handler fault, (respond handler fault).Rewritten (respond' handler fault) :=
    fun _ _ => .asking (.decideOnThen_not saying failing) p
  obtain ⟨drives, -⟩ := drive_expanded evaluator respond respond' routine routine' start same handlers
  obtain ⟨ending, evaluates, accepted, attempts⟩ : ∃ ending, Evaluates respond evaluator.limit routine 1 {} start ending ∧
      ending.result = .ok true ∧ ending.attempts = 2 :=
    ⟨_, .next rfl (.intro .failed rfl (by decide)) (.last rfl (.decided rfl)), rfl, rfl⟩
  exact ⟨ending, evaluates.complete_eq, drives ▸ evaluates.complete_eq, accepted, attempts⟩

end Adjudication
