import Adjudication.Evaluator

/-!
# Where a stopped body leads

The rules for a body that stopped: it leaves a fault pending or not, and then the evaluation concludes or a
handler is run. `settle_eq_ended_iff` and `settle_eq_recovering_iff` say that `Turn.settle` follows them.
-/

namespace Adjudication

variable {κ ε η σ τ : Type}

/-- A body that stopped leaves a fault pending, after so many attempts: the one it failed with, for no attempt, or
the undefined one for finalizing with nothing staged, which takes an attempt. -/
inductive Pends (limit : Nat) : Nat → Interrupt ε → Decision κ η → Fault ε → Nat → Prop where
  | failed {n d fault} : Pends limit n (.failed fault) d fault n
  | unstaged {n d} (nothing : d.verdict = .undefined) (room : n < limit) :
      Pends limit n .decided d .undefined (n + 1)

theorem Pends.later {limit n n' : Nat} {reason : Interrupt ε} {d : Decision κ η} {fault : Fault ε}
    (pends : Pends limit n reason d fault n') : n ≤ n' := by
  cases pends <;> omega

theorem Pends.reason_of_raised {limit n n' : Nat} {reason : Interrupt ε} {d : Decision κ η} {failure : ε}
    (pends : Pends limit n reason d (.raised failure) n') : reason = .failed (.raised failure) := by
  cases pends
  rfl

variable [DecidableEq κ] [Failure ε κ] [Recorder κ τ]

/-- A body that stopped in some attempt concludes the evaluation. -/
inductive Concludes (limit n : Nat) (d : Decision κ η) (w : World σ τ) : Interrupt ε → Ending κ ε η σ τ → Prop where
  | decided {accepted} (staged : d.verdict = .ofBool accepted) :
      Concludes limit n d w .decided ⟨.ok accepted, n, d, w.record (.finalized accepted n)⟩
  /-- Finalizing with nothing staged would take an attempt too many. -/
  | unstaged (nothing : d.verdict = .undefined) (full : limit ≤ n) :
      Concludes limit n d w .decided ⟨.error (.tooManyReentries limit), n, d, w.record (.ceilingReached limit)⟩
  /-- No handler is registered for the fault. -/
  | unhandled {reason fault n'} (pends : Pends limit n reason d fault n')
      (absent : d.handlers.find? fault.slot = none) :
      Concludes limit n d w reason ⟨.error (.ofFault fault), n', d, w.record (.propagating fault.slot)⟩
  /-- The handler of the fault would take an attempt too many. -/
  | exhausted {reason fault n' handler} (pends : Pends limit n reason d fault n')
      (found : d.handlers.find? fault.slot = some handler) (full : limit ≤ n') :
      Concludes limit n d w reason ⟨.error (.tooManyReentries limit), n', d, w.record (.ceilingReached limit)⟩

/-- A body that stopped in some attempt is followed by a handler, as a later attempt. -/
inductive Recovers (limit n : Nat) (d : Decision κ η) (w : World σ τ) :
    Interrupt ε → η → Fault ε → Nat → World σ τ → Prop where
  | intro {reason fault n' handler} (pends : Pends limit n reason d fault n')
      (found : d.handlers.find? fault.slot = some handler) (room : n' < limit) :
      Recovers limit n d w reason handler fault (n' + 1) (w.record (.dispatching fault.slot (n' + 1)))

variable {limit n n' : Nat} {reason : Interrupt ε} {d : Decision κ η} {w w' : World σ τ} {handler : η}
  {fault : Fault ε} {ending : Ending κ ε η σ τ}

theorem Recovers.later (recovers : Recovers limit n d w reason handler fault n' w') : n < n' := by
  obtain ⟨pends, _, _⟩ := recovers
  exact Nat.lt_succ_of_le pends.later

theorem Recovers.within (recovers : Recovers limit n d w reason handler fault n' w') : n' ≤ limit := by
  obtain ⟨_, _, room⟩ := recovers
  exact room

theorem Concludes.attempts_le (concludes : Concludes limit n d w reason ending) : n ≤ ending.attempts := by
  cases concludes with
  | decided | unstaged => exact Nat.le_refl n
  | unhandled pends | exhausted pends => exact pends.later

theorem Concludes.state_eq (concludes : Concludes limit n d w reason ending) : ending.world.state = w.state := by
  cases concludes <;> rfl

theorem Concludes.trace_prefix (concludes : Concludes limit n d w reason ending) : w.trace <+: ending.world.trace := by
  cases concludes <;> exact ⟨_, (World.trace_record w _).symm⟩

theorem Concludes.pends (concludes : Concludes limit n d w reason ending)
    (unhandled : ending.result = .error (.ofFault fault)) :
    Pends limit n reason d fault ending.attempts ∧ d.handlers.find? fault.slot = none := by
  cases concludes with
  | decided => contradiction
  | unstaged | exhausted =>
    exact absurd (Except.error.inj unhandled).symm (DecisionError.ofFault_ne_tooManyReentries _ _)
  | unhandled pends absent =>
    cases DecisionError.ofFault_injective (Except.error.inj unhandled)
    exact ⟨pends, absent⟩

namespace Turn

theorem settle_of_pends (pends : Pends limit n reason d fault n') :
    settle limit n reason d w = dispatch limit n' fault d w := by
  cases pends with
  | failed => rfl
  | unstaged nothing room => rw [settle_of_unstaged nothing, if_pos room]

theorem settle_of_concludes (concludes : Concludes limit n d w reason ending) :
    settle limit n reason d w = .ended ending := by
  cases concludes with
  | decided staged => exact settle_of_staged staged
  | unstaged nothing full => rw [settle_of_unstaged nothing, if_neg (Nat.not_lt.mpr full), Ending.ceiling]
  | unhandled pends absent => rw [settle_of_pends pends, dispatch_of_none absent]
  | exhausted pends found full =>
    rw [settle_of_pends pends, dispatch_of_some found, if_neg (Nat.not_lt.mpr full), Ending.ceiling]

theorem settle_of_recovers (recovers : Recovers limit n d w reason handler fault n' w') :
    settle limit n reason d w = .recovering handler fault n' w' := by
  obtain ⟨pends, found, room⟩ := recovers
  rw [settle_of_pends pends, dispatch_of_some found, if_pos room]

end Turn

theorem Concludes.unique {other : Ending κ ε η σ τ} (concludes : Concludes limit n d w reason ending)
    (also : Concludes limit n d w reason other) : ending = other := by
  cases (Turn.settle_of_concludes concludes).symm.trans (Turn.settle_of_concludes also)
  rfl

theorem concludes_or_recovers_of_pends (w : World σ τ) (pends : Pends limit n reason d fault n') :
    (∃ ending, Concludes limit n d w reason ending) ∨
      ∃ handler fault n' w', Recovers limit n d w reason handler fault n' w' := by
  cases found : d.handlers.find? fault.slot with
  | none => exact .inl ⟨_, .unhandled pends found⟩
  | some handler =>
    by_cases room : n' < limit
    · exact .inr ⟨handler, fault, n' + 1, _, .intro pends found room⟩
    · exact .inl ⟨_, .exhausted pends found (Nat.le_of_not_lt room)⟩

/-- After a body stopped, the evaluation concludes or a handler is run. -/
theorem concludes_or_recovers (limit n : Nat) (reason : Interrupt ε) (d : Decision κ η) (w : World σ τ) :
    (∃ ending, Concludes limit n d w reason ending) ∨
      ∃ handler fault n' w', Recovers limit n d w reason handler fault n' w' := by
  cases reason with
  | failed fault => exact concludes_or_recovers_of_pends w .failed
  | decided =>
    cases staged : d.verdict with
    | accept => exact .inl ⟨_, .decided (show d.verdict = .ofBool true from staged)⟩
    | reject => exact .inl ⟨_, .decided (show d.verdict = .ofBool false from staged)⟩
    | undefined =>
      by_cases room : n < limit
      · exact concludes_or_recovers_of_pends w (.unstaged staged room)
      · exact .inl ⟨_, .unstaged staged (Nat.le_of_not_lt room)⟩

namespace Turn

theorem settle_eq_ended_iff :
    settle limit n reason d w = .ended ending ↔ Concludes limit n d w reason ending := by
  refine ⟨fun turn => ?_, settle_of_concludes⟩
  rcases concludes_or_recovers limit n reason d w with ⟨other, concludes⟩ | ⟨handler, fault, n', w', recovers⟩
  · cases (settle_of_concludes concludes).symm.trans turn
    exact concludes
  · cases (settle_of_recovers recovers).symm.trans turn

theorem settle_eq_recovering_iff :
    settle limit n reason d w = .recovering handler fault n' w' ↔
      Recovers limit n d w reason handler fault n' w' := by
  refine ⟨fun turn => ?_, settle_of_recovers⟩
  rcases concludes_or_recovers limit n reason d w with ⟨ending, concludes⟩ | ⟨other, fault', k, w'', recovers⟩
  · cases (settle_of_concludes concludes).symm.trans turn
  · cases (settle_of_recovers recovers).symm.trans turn
    exact recovers

end Turn

end Adjudication
