import Adjudication.Proofs.Evaluation.BigStep
import Adjudication.Proofs.Evaluation.History
import Adjudication.Script.Play

/-!
# Ways to ask for an evaluation

An evaluation can be asked for a truth value, or for the value of one of two callbacks, of an evaluator or of the
default one. `evaluate_eq_decide` says that the second is the first, and then a call. `entry_points_agree` says which
callback is called, and when, and that the default evaluator is the one with a ceiling of one hundred.
-/

namespace Adjudication

variable {α κ ε η σ τ : Type}

namespace Evaluator

theorem eq_default_of_limit {evaluator : Evaluator} (hundred : evaluator.limit = 100) : evaluator = default := by
  obtain ⟨⟨ceiling⟩, positive⟩ := evaluator
  have same : ceiling = 100 := UInt32.toNat_inj.mp hundred
  subst same
  rfl

/-- What is left to do when it is known how an evaluation decided: an error is passed on, and for a verdict its callback
is called in the state that was left. -/
def answerBy {m : Type → Type} [Monad m] (onAccept onReject : Act σ τ m α) :
    Except (DecisionError ε) Bool × World σ τ → m (Except (DecisionError ε) α × World σ τ)
  | (.error e, left) => pure (.error e, left)
  | (.ok accepted, left) => do
    let (a, entries, s) ← (if accepted then onAccept else onReject) left.state
    pure (.ok a, left.after entries s)

variable [DecidableEq κ] [Failure ε κ] [Recorder κ τ]

theorem evaluate_eq_decide {m : Type → Type} [Monad m] [LawfulMonad m] (evaluator : Evaluator)
    (respond : η → Fault ε → Routine κ ε η σ τ m Empty) (onAccept onReject : Act σ τ m α)
    (routine : Routine κ ε η σ τ m Empty) (w : World σ τ) :
    evaluator.evaluate respond onAccept onReject routine w =
      evaluator.decide respond routine w >>= answerBy onAccept onReject := by
  rw [decide_eq_drive, bind_map_left, evaluate]
  refine bind_congr fun ending => ?_
  cases ending.result <;> rfl

variable {evaluator : Evaluator} {respond : η → Fault ε → Routine κ ε η σ τ Option Empty}
  {onAccept onReject : Act σ τ Option α} {routine : Routine κ ε η σ τ Option Empty} {w left last : World σ τ}

theorem evaluate_eq_error_iff {e : DecisionError ε} :
    evaluator.evaluate respond onAccept onReject routine w = some (.error e, left) ↔
      evaluator.decide respond routine w = some (.error e, left) := by
  rw [evaluate_eq_decide, Option.bind_eq_bind, Option.bind_eq_some_iff]
  constructor
  · rintro ⟨⟨_ | accepted, left⟩, decided, answered⟩
    · cases answered
      exact decided
    · obtain ⟨_, _, answered⟩ := Option.bind_eq_some_iff.mp answered
      cases answered
  · exact fun decided => ⟨_, decided, rfl⟩

theorem evaluate_eq_ok_iff {a : α} :
    evaluator.evaluate respond onAccept onReject routine w = some (.ok a, last) ↔
      ∃ accepted left entries s, evaluator.decide respond routine w = some (.ok accepted, left) ∧
        (if accepted then onAccept else onReject) left.state = some (a, entries, s) ∧ last = left.after entries s := by
  rw [evaluate_eq_decide, Option.bind_eq_bind, Option.bind_eq_some_iff]
  constructor
  · rintro ⟨⟨_ | accepted, left⟩, decided, answered⟩
    · cases answered
    · obtain ⟨⟨_, entries, s⟩, called, answered⟩ := Option.bind_eq_some_iff.mp answered
      cases answered
      exact ⟨accepted, left, entries, s, decided, called, rfl⟩
  · rintro ⟨accepted, left, entries, s, decided, called, rfl⟩
    exact ⟨_, decided, Option.bind_eq_some_iff.mpr ⟨_, called, rfl⟩⟩

end Evaluator

variable [DecidableEq κ] [Failure ε κ] [Recorder κ τ]

theorem Concludes.verdict_eq {limit n : Nat} {d : Decision κ η} {w : World σ τ} {reason : Interrupt ε}
    {ending : Ending κ ε η σ τ} {accepted : Bool} (concludes : Concludes limit n d w reason ending)
    (answered : ending.result = .ok accepted) : ending.decision.verdict = .ofBool accepted := by
  cases concludes with
  | decided staged =>
    cases answered
    exact staged
  | unstaged | unhandled | exhausted => cases answered

theorem Evaluates.verdict_eq {respond : η → Fault ε → Routine κ ε η σ τ Option Empty} {limit n : Nat}
    {body : Routine κ ε η σ τ Option Empty} {d : Decision κ η} {w : World σ τ} {ending : Ending κ ε η σ τ}
    {accepted : Bool} (evaluates : Evaluates respond limit body n d w ending)
    (answered : ending.result = .ok accepted) : ending.decision.verdict = .ofBool accepted := by
  induction evaluates with
  | last _ concludes => exact concludes.verdict_eq answered
  | next _ _ _ ih => exact ih answered

/-- An evaluation by callbacks is the one for a truth value, and then one call. They have the same error, in the same
world, and then no callback was called. There is a value just if there is a truth value; it is the value of the callback
for it, which was called once, in the state that was left, so all that it wrote comes last. The truth value is the
verdict that was staged at the end. What the default evaluator is asked for is what an evaluator with a ceiling of one
hundred gives. -/
theorem entry_points_agree (evaluator : Evaluator) (respond : η → Fault ε → Routine κ ε η σ τ Option Empty)
    (onAccept onReject : Act σ τ Option α) (routine : Routine κ ε η σ τ Option Empty) (w : World σ τ) :
    (∀ e left, evaluator.evaluate respond onAccept onReject routine w = some (.error e, left) ↔
      evaluator.decide respond routine w = some (.error e, left)) ∧
    (∀ a last, evaluator.evaluate respond onAccept onReject routine w = some (.ok a, last) ↔
      ∃ accepted left entries s, evaluator.decide respond routine w = some (.ok accepted, left) ∧
        (if accepted then onAccept else onReject) left.state = some (a, entries, s) ∧ last = left.after entries s) ∧
    (∀ accepted left, evaluator.decide respond routine w = some (.ok accepted, left) →
      ∃ ending, evaluator.drive respond routine w = some ending ∧ ending.world = left ∧
        (accepted = true ↔ ending.decision.verdict = .accept) ∧
        (accepted = false ↔ ending.decision.verdict = .reject)) ∧
    (evaluator.limit = 100 →
      makeDecision respond onAccept onReject routine w = evaluator.evaluate respond onAccept onReject routine w ∧
      Adjudication.decide respond routine w = evaluator.decide respond routine w) := by
  refine ⟨fun e left => Evaluator.evaluate_eq_error_iff, fun a last => Evaluator.evaluate_eq_ok_iff,
    fun accepted left decided => ?_, fun hundred => ?_⟩
  · rw [Evaluator.decide_eq_drive, Option.map_eq_map, Option.map_eq_some_iff] at decided
    obtain ⟨ending, ended, same⟩ := decided
    obtain ⟨answered, rfl⟩ := Prod.mk.inj same
    have verdict := (evaluates_of_complete ended).verdict_eq answered
    refine ⟨ending, ended, rfl, ?_, ?_⟩ <;> rw [verdict] <;> cases accepted <;> simp [Verdict.ofBool]
  · rw [Evaluator.eq_default_of_limit hundred]
    exact ⟨rfl, rfl⟩

/-- Accepting is given up because its effect fails, and a handler rejects: the callback for accepting, which would never
return, is not called. -/
theorem entry_points_agree_abandoned :
    let evaluator : Evaluator := ⟨⟨100⟩, by decide⟩
    let failing : Effect Script.Mishap Script.Vars Script.Entry Option := fun vars =>
      some (.error ⟨"net", 7⟩, [.effect], vars)
    let routine : Routine String Script.Mishap Unit Script.Vars Script.Entry Option Empty :=
      Routine.onErr "net" () >>= fun _ => Routine.acceptThen failing
    let respond := fun _ _ => Routine.reject
    let start : Script.World := ⟨{}, []⟩
    ∃ left, Adjudication.decide respond routine start = some (.ok false, left) ∧ left.trace.head? = some .effect ∧
      makeDecision respond (fun _ => none) (Script.answerInWords false) routine start =
        some (.ok (.word false), left.after [.callback false] left.state) ∧
      ∃ ending, evaluator.drive respond routine start = some ending ∧ ending.decision.verdict = .reject := by
  intro evaluator failing routine respond start
  obtain ⟨-, called, staged, same⟩ :=
    entry_points_agree evaluator respond (fun _ => none) (Script.answerInWords false) routine start
  obtain ⟨sameValue, sameTruth⟩ := same rfl
  obtain ⟨ending, evaluates, answered, effect⟩ : ∃ ending : Ending String Script.Mishap Unit Script.Vars Script.Entry,
      Evaluates respond evaluator.limit routine 1 {} start ending ∧ ending.result = .ok false ∧
      ending.world.trace.head? = some .effect :=
    ⟨_, .next rfl (.intro .failed rfl (by decide)) (.last rfl (.decided rfl)), rfl, rfl⟩
  have ended : evaluator.drive respond routine start = some ending := evaluates.complete_eq
  have decided : evaluator.decide respond routine start = some (.ok false, ending.world) := by
    rw [Evaluator.decide_eq_drive, ended, ← answered]
    rfl
  obtain ⟨last, drove, -, -, rejected⟩ := staged false ending.world decided
  have valued := (called _ _).mpr ⟨false, _, _, _, decided, rfl, rfl⟩
  exact ⟨ending.world, sameTruth.trans decided, effect, sameValue.trans valued, last, drove, rejected.mp rfl⟩

end Adjudication
