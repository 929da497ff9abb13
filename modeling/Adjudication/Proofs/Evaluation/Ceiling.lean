import Adjudication.Proofs.Evaluation.BigStep
import Adjudication.Proofs.Evaluation.Course

/-!
# What the ceiling does

The same routine under two ceilings goes through the same points for as long as the lower ceiling allows, and is cut
off there. `drive_under_ceiling` says which endings are kept under another ceiling, and how the others are cut.
-/

namespace Adjudication

variable {κ ε η σ τ : Type} {limit other n n' : Nat} {reason : Interrupt ε} {d : Decision κ η} {fault : Fault ε}

/-! ### A stopped body under another ceiling -/

theorem Pends.under (pends : Pends limit n reason d fault n') (within : n' ≤ other) :
    Pends other n reason d fault n' := by
  cases pends with
  | failed => exact .failed
  | unstaged nothing _ => exact .unstaged nothing within

variable [DecidableEq κ] [Failure ε κ] [Recorder κ τ] {w w' : World σ τ} {handler : η} {ending : Ending κ ε η σ τ}

theorem Recovers.under (recovers : Recovers limit n d w reason handler fault n' w') (within : n' ≤ other) :
    Recovers other n d w reason handler fault n' w' := by
  obtain ⟨pends, found, _⟩ := recovers
  exact .intro (pends.under (Nat.le_of_succ_le within)) found within

theorem Concludes.under (concludes : Concludes limit n d w reason ending)
    (kept : ending.result ≠ .error (.tooManyReentries limit)) (within : ending.attempts ≤ other) :
    Concludes other n d w reason ending := by
  cases concludes with
  | decided staged => exact .decided staged
  | unhandled pends absent => exact .unhandled (pends.under within) absent
  | unstaged | exhausted => exact absurd rfl kept

/-- A handler that is wanted is cut off by a ceiling below its attempt: at the charge for finalizing with nothing
staged, or at the charge for the handler. -/
theorem Pends.cut (pends : Pends limit n reason d fault n') (found : d.handlers.find? fault.slot = some handler)
    (within : n ≤ other) (full : other ≤ n') : Concludes other n d w reason (.ceiling other other d w) := by
  cases pends with
  | failed =>
    obtain rfl : n = other := Nat.le_antisymm within full
    exact .exhausted .failed found full
  | unstaged nothing _ =>
    rcases Nat.eq_or_lt_of_le within with rfl | room
    · exact .unstaged nothing (Nat.le_refl n)
    · obtain rfl : n + 1 = other := Nat.le_antisymm room full
      exact .exhausted (.unstaged nothing room) found (Nat.le_refl _)

theorem Recovers.cut (recovers : Recovers limit n d w reason handler fault n' w') (within : n ≤ other)
    (beyond : other < n') : Concludes other n d w reason (.ceiling other other d w) := by
  obtain ⟨pends, found, _⟩ := recovers
  exact pends.cut found within (Nat.le_of_lt_succ beyond)

theorem Concludes.cut (concludes : Concludes limit n d w reason ending) (within : n ≤ other)
    (beyond : other < ending.attempts) : Concludes other n d w reason (.ceiling other other d w) := by
  cases concludes with
  | decided | unstaged => exact absurd beyond (Nat.not_lt.mpr within)
  | exhausted pends found _ => exact pends.cut found within (Nat.le_of_lt beyond)
  | unhandled pends _ =>
    cases pends with
    | failed => exact absurd beyond (Nat.not_lt.mpr within)
    | unstaged nothing _ =>
      obtain rfl : n = other := Nat.le_antisymm within (Nat.le_of_lt_succ beyond)
      exact .unstaged nothing (Nat.le_refl n)

theorem Concludes.cut_lower (concludes : Concludes limit n d w reason ending)
    (tooMany : ending.result = .error (.tooManyReentries limit)) (within : n ≤ other) (lower : other ≤ limit) :
    Concludes other n d w reason (.ceiling other other d w) := by
  cases concludes with
  | decided => contradiction
  | unhandled => exact absurd (Except.error.inj tooMany) (DecisionError.ofFault_ne_tooManyReentries _ _)
  | exhausted pends found full => exact pends.cut found within (Nat.le_trans lower full)
  | unstaged nothing full =>
    obtain rfl : n = other := Nat.le_antisymm within (Nat.le_trans lower full)
    exact .unstaged nothing (Nat.le_refl n)

/-! ### An evaluation under another ceiling -/

/-- An ending at a ceiling before which only the beginning of another ending's trace was written. -/
structure Ending.Cuts (limit : Nat) (start : World σ τ) (cut whole : Ending κ ε η σ τ) : Prop where
  result : cut.result = .error (.tooManyReentries limit)
  attempts : cut.attempts = limit
  trace : ∃ before, start.trace <+: before ∧ before <+: whole.world.trace ∧
    cut.world.trace = before ++ [Recorder.entry (.ceilingReached limit)]

variable {respond : η → Fault ε → Routine κ ε η σ τ Option Empty} {routine : Routine κ ε η σ τ Option Empty}
  {evaluator lower : Evaluator} {p q : Point κ ε η σ τ}

theorem Step.under (step : Step respond limit p q) (within : q.attempt ≤ other) : Step respond other p q := by
  cases step with
  | call returned => exact .call returned
  | recover recovers => exact .recover (recovers.under within)

theorem Step.cut (step : Step respond limit p q) (within : p.attempt ≤ other) (beyond : other < q.attempt) :
    p.EndsIn other (.ceiling other other p.decision p.world) := by
  cases step with
  | call => exact absurd beyond (Nat.not_lt.mpr within)
  | recover recovers => exact ⟨_, rfl, recovers.cut within beyond⟩

namespace Evaluator

theorem Reaches.under (reached : evaluator.Reaches respond routine w p) (within : p.attempt ≤ lower.limit) :
    lower.Reaches respond routine w p := by
  induction reached with
  | refl => exact .refl
  | tail _ step ih => exact (ih (Nat.le_trans step.attempt_le within)).tail (step.under within)

/-- An evaluation that goes beyond another ceiling comes to a point where that ceiling cuts it off. -/
theorem Reaches.cut (reached : evaluator.Reaches respond routine w p) (beyond : lower.limit < p.attempt) :
    ∃ q, lower.Reaches respond routine w q ∧ q.world.trace <+: p.world.trace ∧
      q.EndsIn lower.limit (.ceiling lower.limit lower.limit q.decision q.world) := by
  induction reached with
  | refl => exact absurd beyond (Nat.not_lt.mpr lower.positive)
  | @tail p' _ reached step ih =>
    rcases Nat.lt_or_ge lower.limit p'.attempt with before | within
    · obtain ⟨q, reaches, earlier, ends⟩ := ih before
      exact ⟨q, reaches, earlier.trans step.trace_prefix, ends⟩
    · exact ⟨p', Reaches.under reached within, step.trace_prefix, step.cut within beyond⟩

theorem drive_cut (reached : lower.Reaches respond routine w q)
    (ends : q.EndsIn lower.limit (.ceiling lower.limit lower.limit q.decision q.world))
    (earlier : q.world.trace <+: ending.world.trace) :
    ∃ cut, lower.drive respond routine w = some cut ∧ cut.Cuts lower.limit w ending :=
  ⟨_, drive_eq_some_iff.mpr ⟨q, reached, ends⟩, rfl, rfl, q.world.trace, reached.trace_prefix, earlier,
    World.trace_record q.world _⟩

theorem drive_cut_of_endsIn (reached : evaluator.Reaches respond routine w p) (ends : p.EndsIn evaluator.limit ending)
    (cut : p.attempt ≤ lower.limit →
      p.EndsIn lower.limit (.ceiling lower.limit lower.limit p.decision p.world)) :
    ∃ cut, lower.drive respond routine w = some cut ∧ cut.Cuts lower.limit w ending := by
  obtain ⟨_, _, concludes⟩ := ends
  rcases Nat.lt_or_ge lower.limit p.attempt with beyond | within
  · obtain ⟨q, reaches, earlier, ends⟩ := reached.cut beyond
    exact drive_cut reaches ends (earlier.trans concludes.trace_prefix)
  · exact drive_cut (reached.under within) (cut within) concludes.trace_prefix

end Evaluator

/-- An evaluation that ends within its ceiling is the same under every ceiling that its attempts allow, and every lower
one cuts it off after a beginning of its trace; one that is cut off is cut off by every lower ceiling. So finalizing
with nothing staged is one attempt too many already for a ceiling of one. -/
theorem drive_under_ceiling (evaluator other : Evaluator) (ended : evaluator.drive respond routine w = some ending) :
    (ending.result ≠ .error (.tooManyReentries evaluator.limit) →
      (ending.attempts ≤ other.limit → other.drive respond routine w = some ending) ∧
      (other.limit < ending.attempts →
        ∃ cut, other.drive respond routine w = some cut ∧ cut.Cuts other.limit w ending)) ∧
    (ending.result = .error (.tooManyReentries evaluator.limit) → other.limit ≤ evaluator.limit →
      ∃ cut, other.drive respond routine w = some cut ∧ cut.Cuts other.limit w ending) ∧
    (∀ d w', routine.stopIn 1 {} w = some (.decided, d, w') → d.verdict = .undefined → other.limit = 1 →
      other.drive respond routine w = some (.ceiling 1 1 d w')) := by
  obtain ⟨p, reached, ends⟩ := Evaluator.drive_eq_some_iff.mp ended
  have ⟨reason, stopped, concludes⟩ := ends
  refine ⟨fun kept => ⟨fun within => ?_, fun beyond => ?_⟩, fun tooMany lower => ?_, fun d w' stops nothing one => ?_⟩
  · have earlier : p.attempt ≤ other.limit := Nat.le_trans concludes.attempts_le within
    exact Evaluator.drive_eq_some_iff.mpr ⟨p, reached.under earlier, reason, stopped, concludes.under kept within⟩
  · exact Evaluator.drive_cut_of_endsIn reached ends fun within => ⟨reason, stopped, concludes.cut within beyond⟩
  · exact Evaluator.drive_cut_of_endsIn reached ends fun within =>
      ⟨reason, stopped, concludes.cut_lower tooMany within lower⟩
  · rw [Evaluator.drive, one]
    exact complete_of_concludes stops (.unstaged nothing (Nat.le_refl 1))

/-- A handler that accepts needs two attempts: a ceiling of five allows them, a ceiling of one does not. One that fails
as the routine did is cut off by both ceilings. -/
theorem drive_under_ceiling_accepting :
    let two : Evaluator := ⟨⟨2⟩, by decide⟩
    let five : Evaluator := ⟨⟨5⟩, by decide⟩
    let one : Evaluator := ⟨⟨1⟩, by decide⟩
    let routine : Routine String Script.Mishap Unit Script.Vars Script.Entry Option Empty :=
      Routine.onErr "net" () >>= fun _ => Routine.raise ⟨"net", 7⟩
    let accepting := fun _ _ => Routine.accept
    let reraising := fun _ fault => .stop (.failed fault)
    let start : Script.World := ⟨{}, []⟩
    (∃ ending, two.drive accepting routine start = some ending ∧ ending.result = .ok true ∧
      five.drive accepting routine start = some ending ∧
      ∃ cut, one.drive accepting routine start = some cut ∧ cut.Cuts 1 start ending) ∧
    (∃ ending, two.drive reraising routine start = some ending ∧ ending.result = .error (.tooManyReentries 2) ∧
      ∃ cut, one.drive reraising routine start = some cut ∧ cut.Cuts 1 start ending) ∧
    one.drive accepting Routine.decide start = some (.ceiling 1 1 {} start) := by
  intro two five one routine accepting reraising start
  refine ⟨?_, ?_, ?_⟩
  · obtain ⟨ending, evaluates, result, attempts⟩ : ∃ ending : Ending String Script.Mishap Unit Script.Vars Script.Entry,
        Evaluates accepting two.limit routine 1 {} start ending ∧ ending.result = .ok true ∧ ending.attempts = 2 :=
      ⟨_, .next rfl (.intro .failed rfl (by decide)) (.last rfl (.decided rfl)), rfl, rfl⟩
    have ended := evaluates.complete_eq
    have kept : ending.result ≠ .error (.tooManyReentries two.limit) := by simp [result]
    have allowed := ((drive_under_ceiling two five ended).1 kept).1
    have beyond := ((drive_under_ceiling two one ended).1 kept).2
    exact ⟨ending, ended, result, allowed (by rw [attempts]; decide), beyond (by rw [attempts]; decide)⟩
  · obtain ⟨ending, evaluates, result⟩ : ∃ ending : Ending String Script.Mishap Unit Script.Vars Script.Entry,
        Evaluates reraising two.limit routine 1 {} start ending ∧ ending.result = .error (.tooManyReentries 2) :=
      ⟨_, .next rfl (.intro .failed rfl (by decide)) (.last rfl (.exhausted .failed rfl (by decide))), rfl⟩
    have ended := evaluates.complete_eq
    exact ⟨ending, ended, result, (drive_under_ceiling two one ended).2.1 result (by decide)⟩
  · obtain ⟨ending, evaluates⟩ : ∃ ending : Ending String Script.Mishap Unit Script.Vars Script.Entry,
        Evaluates accepting two.limit Routine.decide 1 {} start ending :=
      ⟨_, .last rfl (.unhandled (.unstaged rfl (by decide)) rfl)⟩
    exact (drive_under_ceiling two one evaluates.complete_eq).2.2 {} start rfl rfl rfl

end Adjudication
