import Adjudication.Proofs.Evaluation.Staging
import Mathlib.Data.List.TakeWhile

/-!
# What attempts count

At every point of an evaluation the count of attempts is one for the routine, one for each handler that was run, and one
for each body that finalized with nothing staged. `attempts_account` says so, that the count stays within the ceiling,
and that an evaluation whose bodies all stop comes to an end after no more bodies than the ceiling allows.
-/

namespace Adjudication

variable {κ ε η σ τ : Type}

/-! ### Counts -/

def Deed.isStaging : Deed κ ε η → Bool
  | .staged _ => true
  | _ => false

def Deed.isRecovery : Deed κ ε η → Bool
  | .recovered _ _ => true
  | _ => false

def Deed.isFinalizing : Deed κ ε η → Bool
  | .stopped .decided => true
  | _ => false

/-- How many handlers were run. -/
def handlersRun (deeds : List (Deed κ ε η)) : Nat := deeds.countP Deed.isRecovery

/-- How many bodies finalized before anything was staged. -/
def unstagedStops (deeds : List (Deed κ ε η)) : Nat :=
  (deeds.takeWhile fun deed => !deed.isStaging).countP Deed.isFinalizing

variable {deeds more : List (Deed κ ε η)}

theorem handlersRun_append : handlersRun (deeds ++ more) = handlersRun deeds + handlersRun more :=
  List.countP_append

theorem unstaged_of_forall (unstaged : ∀ accepted, .staged accepted ∉ deeds) :
    ∀ deed ∈ deeds, (!deed.isStaging) = true := by
  intro deed done
  cases deed with
  | staged accepted => exact absurd done (unstaged accepted)
  | registered | stopped | recovered => rfl

theorem unstagedStops_append_of_unstaged (unstaged : ∀ accepted, .staged accepted ∉ deeds) :
    unstagedStops (deeds ++ more) = unstagedStops deeds + unstagedStops more := by
  have all := unstaged_of_forall unstaged
  unfold unstagedStops
  rw [List.takeWhile_append_of_pos all, List.countP_append, List.takeWhile_eq_self_iff.mpr all]

theorem unstagedStops_append_of_unfinalized (unfinalized : ∀ deed ∈ more, deed.isFinalizing = false) :
    unstagedStops (deeds ++ more) = unstagedStops deeds := by
  have none : (more.takeWhile fun deed => !deed.isStaging).countP Deed.isFinalizing = 0 := by
    rw [List.countP_eq_zero]
    intro deed taken
    have finalizing := unfinalized deed (List.takeWhile_subset _ taken)
    simp [finalizing]
  unfold unstagedStops
  rw [List.takeWhile_append]
  split
  · rename_i whole
    rw [List.countP_append, none, (List.takeWhile_prefix _).eq_of_length whole, Nat.add_zero]
  · rfl

/-! ### Steps -/

theorem Operation.deeds_inert {β : Type} {m : Type → Type} (operation : Operation κ η σ τ m β) :
    ∀ deed ∈ (operation.deeds : List (Deed κ ε η)), deed.isRecovery = false ∧ deed.isFinalizing = false := by
  cases operation with
  | stage | register =>
    intro deed done
    cases List.mem_singleton.mp done
    exact ⟨rfl, rfl⟩
  | attempts | verdict | handlers | act => exact nofun

theorem handlersRun_operation {β : Type} {m : Type → Type} (operation : Operation κ η σ τ m β) :
    handlersRun (deeds ++ operation.deeds) = handlersRun deeds := by
  have none : handlersRun (operation.deeds : List (Deed κ ε η)) = 0 := by
    rw [handlersRun, List.countP_eq_zero]
    intro deed done
    rw [(operation.deeds_inert deed done).1]
    exact Bool.false_ne_true
  rw [handlersRun_append, none, Nat.add_zero]

theorem unstagedStops_operation {β : Type} {m : Type → Type} (operation : Operation κ η σ τ m β) :
    unstagedStops (deeds ++ operation.deeds) = unstagedStops deeds :=
  unstagedStops_append_of_unfinalized fun deed done => (operation.deeds_inert deed done).2

theorem handlersRun_recovery (deeds : List (Deed κ ε η)) (reason : Interrupt ε) (handler : η) (fault : Fault ε) :
    handlersRun (deeds ++ [.stopped reason, .recovered handler fault]) = handlersRun deeds + 1 :=
  handlersRun_append

/-- A point where the count of attempts is what was done before it. -/
def Point.Accounted (p : Point κ ε η σ τ) : Prop :=
  p.attempt = 1 + handlersRun p.deeds + unstagedStops p.deeds

section

variable {limit n n' : Nat} {reason : Interrupt ε} {d : Decision κ η} {fault : Fault ε}

/-- The charge for a fault: an attempt if it comes from finalizing with nothing staged. -/
theorem Pends.charge (pends : Pends limit n reason d fault n')
    (verdict : d.verdict = .undefined ↔ ∀ accepted, .staged accepted ∉ deeds) (handler : η) :
    n' + unstagedStops deeds = n + unstagedStops (deeds ++ [.stopped reason, .recovered handler fault]) := by
  cases pends with
  | failed =>
    rw [unstagedStops_append_of_unfinalized]
    intro deed done
    simp only [List.mem_cons, List.not_mem_nil, or_false] at done
    rcases done with rfl | rfl <;> rfl
  | unstaged nothing _ =>
    rw [unstagedStops_append_of_unstaged (verdict.mp nothing), Nat.add_comm (unstagedStops deeds), ← Nat.add_assoc]
    rfl

variable [DecidableEq κ] [Failure ε κ] [Recorder κ τ] {respond : η → Fault ε → Routine κ ε η σ τ Option Empty}
  {p q : Point κ ε η σ τ}

theorem Step.accounted (step : Step respond limit p q)
    (verdict : p.decision.verdict = .undefined ↔ ∀ accepted, .staged accepted ∉ p.deeds) (accounted : p.Accounted) :
    q.Accounted := by
  unfold Point.Accounted at accounted ⊢
  cases step with
  | call =>
    rw [handlersRun_operation, unstagedStops_operation]
    exact accounted
  | @recover n d w deeds reason handler fault n' w' recovers =>
    obtain ⟨pends, _, _⟩ := recovers
    have charge := pends.charge verdict handler
    have counted := handlersRun_recovery deeds reason handler fault
    simp only at accounted charge counted ⊢
    omega

theorem handlersRun_le_of_steps (steps : Relation.ReflTransGen (Step respond limit) p q) :
    handlersRun p.deeds ≤ handlersRun q.deeds :=
  (deeds_prefix_of_steps steps).sublist.countP_le

theorem attempt_le_of_steps (steps : Relation.ReflTransGen (Step respond limit) p q) : p.attempt ≤ q.attempt := by
  induction steps with
  | refl => exact Nat.le_refl _
  | tail _ step ih => exact Nat.le_trans ih step.attempt_le

/-- As long as no other handler is run, the count of attempts stays. -/
theorem attempt_eq_of_steps (steps : Relation.ReflTransGen (Step respond limit) p q)
    (same : handlersRun q.deeds = handlersRun p.deeds) : q.attempt = p.attempt := by
  induction steps with
  | refl => rfl
  | tail steps step ih =>
    have before := handlersRun_le_of_steps steps
    cases step with
    | call =>
      rw [handlersRun_operation] at same
      exact ih same
    | recover =>
      rw [handlersRun_recovery] at same
      exact absurd (Nat.le_of_eq same) (Nat.not_le_of_lt (Nat.lt_succ_of_le before))

theorem Point.HandsTo.attempt_eq {handler : η} (hands : p.HandsTo limit handler fault n) :
    (p.FinalizesUnstaged → n = p.attempt + 2) ∧ (¬ p.FinalizesUnstaged → n = p.attempt + 1) := by
  obtain ⟨reason, _, stopped, ⟨pends, _, _⟩, _⟩ := hands
  cases pends with
  | failed =>
    have failed : ¬ p.FinalizesUnstaged := fun unstaged => nomatch stopped.symm.trans unstaged.1
    exact ⟨fun unstaged => absurd unstaged failed, fun _ => rfl⟩
  | unstaged nothing _ => exact ⟨fun _ => rfl, fun staged => absurd ⟨stopped, nothing⟩ staged⟩

theorem Point.HandsTo.left_lt {handler : η} (hands : p.HandsTo limit handler fault n) :
    limit - n < limit - p.attempt := by
  obtain ⟨_, _, _, recovers, _⟩ := hands
  have later := recovers.later
  have within := recovers.within
  omega

/-! ### Whole evaluations -/

variable {evaluator : Evaluator} {routine : Routine κ ε η σ τ Option Empty} {w : World σ τ}
  {ending : Ending κ ε η σ τ}

theorem Evaluator.Reaches.accounted (reached : evaluator.Reaches respond routine w p) : p.Accounted := by
  induction reached with
  | refl => rfl
  | tail reached step ih => exact step.accounted (Evaluator.Reaches.verdict_eq_undefined_iff reached) ih

theorem Evaluator.limit_lt (evaluator : Evaluator) : evaluator.limit < UInt32.size :=
  evaluator.config.maxAttempts.toNat_lt

theorem Evaluator.Reaches.toNat_attempt (reached : evaluator.Reaches respond routine w p) :
    (UInt32.ofNat p.attempt).toNat = p.attempt :=
  UInt32.toNat_ofNat_of_lt (Nat.lt_of_le_of_lt reached.attempt_le_limit evaluator.limit_lt)

omit [DecidableEq κ] [Failure ε κ] [Recorder κ τ] in
theorem Pends.within (pends : Pends limit n reason d fault n') (within : n ≤ limit) : n' ≤ limit := by
  cases pends with
  | failed => exact within
  | unstaged _ room => exact room

theorem Point.EndsIn.attempts_le_limit (ends : p.EndsIn limit ending) (within : p.attempt ≤ limit) :
    ending.attempts ≤ limit := by
  obtain ⟨_, _, concludes⟩ := ends
  cases concludes with
  | decided | unstaged => exact within
  | unhandled pends | exhausted pends => exact pends.within within

end

/-- At every point of an evaluation the count of attempts, which is what a body reads, is one for the routine, one for
each handler run and one for each body that finalized before anything was staged; it is positive, within the ceiling and
so the value of a word. No body changes it, and it is never reset: from a body to the next it grows by two after
finalizing with nothing staged and else by one, so what is left under the ceiling decreases. If every body that is run
stops, the evaluation ends, and no more bodies are run than the ceiling says. -/
theorem attempts_account [DecidableEq κ] [Failure ε κ] [Recorder κ τ] (evaluator : Evaluator)
    (respond : η → Fault ε → Routine κ ε η σ τ Option Empty) (routine : Routine κ ε η σ τ Option Empty)
    (w : World σ τ) :
    (∀ p, evaluator.Reaches respond routine w p →
      p.attempt = 1 + handlersRun p.deeds + unstagedStops p.deeds ∧
      1 ≤ p.attempt ∧ p.attempt ≤ evaluator.limit ∧ (UInt32.ofNat p.attempt).toNat = p.attempt ∧
      (∀ next, p.rest = .call .attempts next →
        ∃ q, Step respond evaluator.limit p q ∧ q.rest = next p.attempt) ∧
      (∀ q, Relation.ReflTransGen (Step respond evaluator.limit) p q →
        p.attempt ≤ q.attempt ∧ (handlersRun q.deeds = handlersRun p.deeds → q.attempt = p.attempt)) ∧
      ∀ handler fault n, p.HandsTo evaluator.limit handler fault n →
        (p.FinalizesUnstaged → n = p.attempt + 2) ∧ (¬ p.FinalizesUnstaged → n = p.attempt + 1) ∧
        evaluator.limit - n < evaluator.limit - p.attempt) ∧
    ((∀ body n d w', Runs respond evaluator.limit routine w body n d w' → (body.stopIn n d w').isSome) →
      ∃ ending last, evaluator.drive respond routine w = some ending ∧ ending.attempts ≤ evaluator.limit ∧
        evaluator.Reaches respond routine w last ∧ last.EndsIn evaluator.limit ending ∧
        1 + handlersRun last.deeds ≤ evaluator.limit) := by
  constructor
  · intro p reached
    refine ⟨reached.accounted, reached.attempt_pos, reached.attempt_le_limit, reached.toNat_attempt,
      fun next waiting => ?_, fun q steps => ⟨attempt_le_of_steps steps, attempt_eq_of_steps steps⟩,
      fun handler fault n hands => ⟨hands.attempt_eq.1, hands.attempt_eq.2, hands.left_lt⟩⟩
    obtain ⟨n, rest, d, w', done⟩ := p
    cases waiting
    exact ⟨_, .call rfl, rfl⟩
  · intro stop
    obtain ⟨ending, evaluates⟩ := Runs.routine.evaluates stop
    have ended : evaluator.drive respond routine w = some ending := evaluates.complete_eq
    obtain ⟨last, reached, ends⟩ := Evaluator.drive_eq_some_iff.mp ended
    have accounted : last.attempt = 1 + handlersRun last.deeds + unstagedStops last.deeds := reached.accounted
    have within := reached.attempt_le_limit
    exact ⟨ending, last, ended, ends.attempts_le_limit within, reached, ends, by omega⟩

/-- Handlers that register themselves again and finalize with nothing staged take two attempts each. -/
theorem attempts_account_undecided :
    let evaluator : Evaluator := ⟨⟨5⟩, by decide⟩
    let undecided : Routine String Script.Mishap Unit Script.Vars Script.Entry Option Empty :=
      Routine.onUndefined () >>= fun _ => Routine.decide
    let respond := fun _ _ => undecided
    let start : Script.World := ⟨{}, []⟩
    (∃ p, evaluator.Reaches respond undecided start p ∧ p.attempt = 3 ∧ p.FinalizesUnstaged ∧
      p.HandsTo evaluator.limit () .undefined (p.attempt + 2)) ∧
    ∃ ending last, evaluator.drive respond undecided start = some ending ∧
      evaluator.Reaches respond undecided start last ∧ 1 + handlersRun last.deeds ≤ 5 := by
  intro evaluator undecided respond start
  obtain ⟨counted, ends⟩ := attempts_account evaluator respond undecided start
  constructor
  · obtain ⟨p, reached, handlers, stops, unstaged, n, hands⟩ : ∃ p, evaluator.Reaches respond undecided start p ∧
        handlersRun p.deeds = 1 ∧ unstagedStops p.deeds = 1 ∧ p.FinalizesUnstaged ∧
        ∃ n, p.HandsTo evaluator.limit () .undefined n :=
      ⟨_, .tail (.tail (.single (.call rfl)) (.recover (.intro (.unstaged rfl (by decide)) rfl (by decide)))) (.call rfl),
        rfl, rfl, ⟨rfl, rfl⟩, _, _, _, rfl, .intro (.unstaged rfl (by decide)) rfl (by decide), rfl⟩
    obtain ⟨attempt, _, _, _, _, _, next⟩ := counted p reached
    obtain rfl := (next () .undefined n hands).1 unstaged
    rw [handlers, stops] at attempt
    exact ⟨p, reached, attempt, unstaged, hands⟩
  · obtain ⟨ending, last, ended, _, reached, _, bodies⟩ := ends fun body n d w runs => by cases runs <;> rfl
    exact ⟨ending, last, ended, reached, bodies⟩

end Adjudication
