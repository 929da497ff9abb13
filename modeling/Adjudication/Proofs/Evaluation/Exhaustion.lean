import Adjudication.Proofs.Evaluation.Attempts
import Mathlib.Algebra.GroupWithZero.Nat
import Mathlib.Order.Bounds.Basic

/-!
# Recovery that never decides

An evaluation whose bodies never give an answer, and leave no fault without a handler, goes on until the ceiling stops
it. `undeciding_exhausts` says how many handlers it runs before that.
-/

namespace Adjudication

variable {κ ε η σ τ : Type}

/-! ### Charges -/

/-- The attempts that it takes to go on after a body: one for the handler, and one for deciding on nothing. -/
def Interrupt.charge : Interrupt ε → Nat
  | .decided => 2
  | .failed _ => 1

def Deed.stop? : Deed κ ε η → Option (Interrupt ε)
  | .stopped reason => some reason
  | _ => none

def stopsOf (deeds : List (Deed κ ε η)) : List (Interrupt ε) := deeds.filterMap Deed.stop?

/-- How all bodies stopped up to a point, the one that stops there included. -/
def Point.stops (p : Point κ ε η σ τ) : List (Interrupt ε) :=
  stopsOf p.deeds ++ match p.rest with
    | .stop reason => [reason]
    | _ => []

theorem stopsOf_operation {β : Type} {m : Type → Type} (deeds : List (Deed κ ε η)) (operation : Operation κ η σ τ m β) :
    stopsOf (deeds ++ operation.deeds) = stopsOf deeds := by
  have none : stopsOf (operation.deeds : List (Deed κ ε η)) = [] := by
    cases operation <;> rfl
  unfold stopsOf at none ⊢
  rw [List.filterMap_append, none, List.append_nil]

theorem stopsOf_recovery (deeds : List (Deed κ ε η)) (reason : Interrupt ε) (handler : η) (fault : Fault ε) :
    stopsOf (deeds ++ [.stopped reason, .recovered handler fault]) = stopsOf deeds ++ [reason] :=
  List.filterMap_append

theorem Pends.charge_eq {limit n n' : Nat} {reason : Interrupt ε} {d : Decision κ η} {fault : Fault ε}
    (pends : Pends limit n reason d fault n') : n' + 1 = n + reason.charge := by
  cases pends <;> rfl

section

variable [DecidableEq κ] [Failure ε κ] [Recorder κ τ] {respond : η → Fault ε → Routine κ ε η σ τ Option Empty}
  {routine body : Routine κ ε η σ τ Option Empty} {evaluator : Evaluator} {w start : World σ τ} {limit n : Nat}
  {d : Decision κ η} {reason : Interrupt ε} {ending : Ending κ ε η σ τ} {p q : Point κ ε η σ τ}

theorem Step.attempt_eq_charges (step : Step respond limit p q)
    (charged : p.attempt = 1 + ((stopsOf p.deeds).map Interrupt.charge).sum) :
    q.attempt = 1 + ((stopsOf q.deeds).map Interrupt.charge).sum := by
  cases step with
  | call =>
    rw [stopsOf_operation]
    exact charged
  | recover recovers =>
    obtain ⟨pends, _, _⟩ := recovers
    have taken := pends.charge_eq
    rw [stopsOf_recovery, List.map_append, List.sum_append]
    simp only [List.map_cons, List.map_nil, List.sum_cons, List.sum_nil] at charged ⊢
    omega

theorem Step.handlersRun_eq_stops (step : Step respond limit p q)
    (counted : handlersRun p.deeds = (stopsOf p.deeds).length) : handlersRun q.deeds = (stopsOf q.deeds).length := by
  cases step with
  | call =>
    rw [stopsOf_operation, handlersRun_operation]
    exact counted
  | recover =>
    rw [stopsOf_recovery, handlersRun_recovery, List.length_append]
    exact congrArg (· + 1) counted

theorem Evaluator.Reaches.attempt_eq_charges (reached : evaluator.Reaches respond routine w p) :
    p.attempt = 1 + ((stopsOf p.deeds).map Interrupt.charge).sum := by
  induction reached with
  | refl => rfl
  | tail _ step ih => exact step.attempt_eq_charges ih

theorem Evaluator.Reaches.handlersRun_eq_stops (reached : evaluator.Reaches respond routine w p) :
    handlersRun p.deeds = (stopsOf p.deeds).length := by
  induction reached with
  | refl => rfl
  | tail _ step ih => exact step.handlersRun_eq_stops ih

theorem Evaluator.Reaches.runs (reached : evaluator.Reaches respond routine w p) :
    ∃ body d w', Runs respond evaluator.limit routine w body p.attempt d w' ∧
      body.stopIn p.attempt d w' = p.rest.stopIn p.attempt p.decision p.world := by
  induction reached with
  | refl => exact ⟨routine, {}, w, .routine, rfl⟩
  | tail reached step ih =>
    obtain ⟨body, d, w', runs, same⟩ := ih
    cases step with
    | call returned =>
      refine ⟨body, d, w', runs, same.trans ?_⟩
      simp [Routine.stopIn_call, returned]
    | recover recovers => exact ⟨_, _, _, runs.handler same recovers, rfl⟩

/-! ### Stops that want a handler -/

/-- A body stopped so that the evaluation can go on: it failed with a fault that a handler is registered for, or it
decided with nothing staged and a handler is registered for that. -/
inductive Undeciding (d : Decision κ η) : Interrupt ε → Prop where
  | failed {fault} (handled : d.handlers.handles fault.slot = true) : Undeciding d (.failed fault)
  | unstaged (nothing : d.verdict = .undefined) (handled : d.handlers.handles .undefined = true) : Undeciding d .decided

theorem Undeciding.handles (undeciding : Undeciding d reason) {fault : Fault ε} {n' : Nat}
    (pends : Pends limit n reason d fault n') : d.handlers.handles fault.slot = true := by
  cases pends with
  | failed =>
    cases undeciding
    assumption
  | unstaged =>
    cases undeciding
    assumption

/-- Only the ceiling ends an evaluation after such a stop, and only where the charge for going on is beyond it. -/
theorem Undeciding.exhausts (undeciding : Undeciding d reason) (concludes : Concludes limit n d w reason ending) :
    ending.result = .error (.tooManyReentries limit) ∧ limit < n + reason.charge := by
  cases concludes with
  | @decided accepted staged =>
    cases undeciding with
    | unstaged nothing => cases accepted <;> cases staged.symm.trans nothing
  | unstaged _ full => exact ⟨rfl, Nat.lt_of_le_of_lt full (Nat.lt_add_of_pos_right Nat.two_pos)⟩
  | unhandled pends absent =>
    have handled := undeciding.handles pends
    rw [HandlerTable.handles_eq, absent] at handled
    cases handled
  | exhausted pends _ full =>
    have taken := pends.charge_eq
    exact ⟨rfl, by omega⟩

/-! ### How many handlers are run -/

theorem isGreatest_of_charges {charges : List Nat} {last : Nat} (within : 1 + charges.sum ≤ limit)
    (beyond : limit < 1 + charges.sum + last) :
    IsGreatest {j | j ≤ (charges ++ [last]).length ∧ 1 + ((charges ++ [last]).take j).sum ≤ limit} charges.length := by
  constructor
  · refine ⟨by simp, ?_⟩
    rw [List.take_left]
    exact within
  · rintro j ⟨most, fits⟩
    by_contra more
    -- Only the whole list is longer, and its last charge is beyond the limit.
    have all : j = (charges ++ [last]).length := by
      simp only [List.length_append, List.length_cons, List.length_nil] at most ⊢
      omega
    rw [all, List.take_length, List.sum_append, List.sum_singleton] at fits
    omega

theorem length_of_charges {charges : List Nat} {charge : Nat} (same : ∀ c ∈ charges, c = charge)
    (within : 1 + charges.sum ≤ limit) (beyond : limit < 1 + charges.sum + charge) :
    charges.length = (limit - 1) / charge := by
  have total : charges.sum = charges.length * charge := by
    rw [List.eq_replicate_of_mem same, List.sum_replicate_nat, List.length_replicate]
  have next : (charges.length + 1) * charge = charges.length * charge + charge := Nat.succ_mul _ _
  exact (Nat.div_eq_of_lt_le (by omega) (by omega)).symm

/-- The evaluation ends at the ceiling, and this is its last point. -/
structure Evaluator.ExhaustedAt (evaluator : Evaluator) (respond : η → Fault ε → Routine κ ε η σ τ Option Empty)
    (routine : Routine κ ε η σ τ Option Empty) (w : World σ τ) (last : Point κ ε η σ τ) : Prop where
  reached : evaluator.Reaches respond routine w last
  ends : ∃ ending, evaluator.drive respond routine w = some ending ∧ last.EndsIn evaluator.limit ending ∧
    ending.result = .error (.tooManyReentries evaluator.limit)

def Routine.StopsUndeciding (body : Routine κ ε η σ τ Option Empty) (n : Nat) (d : Decision κ η) (w : World σ τ) : Prop :=
  ∃ reason d' w', body.stopIn n d w = some (reason, d', w') ∧ Undeciding d' reason

variable {last : Point κ ε η σ τ}

theorem Evaluator.exhausted_of_undeciding (undeciding : ∀ body n d w', Runs respond evaluator.limit routine w body n d w' →
      body.StopsUndeciding n d w') :
    ∃ last reason, evaluator.ExhaustedAt respond routine w last ∧ last.rest = .stop reason ∧
      Undeciding last.decision reason ∧ evaluator.limit < last.attempt + reason.charge := by
  obtain ⟨ending, evaluates⟩ := Runs.routine.evaluates fun body n d w' runs => by
    obtain ⟨_, _, _, stops, _⟩ := undeciding body n d w' runs
    exact Option.isSome_of_eq_some stops
  have ended : evaluator.drive respond routine w = some ending := evaluates.complete_eq
  obtain ⟨last, reached, ends⟩ := Evaluator.drive_eq_some_iff.mp ended
  have ⟨reason, stopped, concludes⟩ := ends
  obtain ⟨body, d, w', runs, same⟩ := reached.runs
  obtain ⟨_, _, _, stops, wants⟩ := undeciding body _ d w' runs
  rw [same, stopped, Routine.stopIn_stop] at stops
  cases stops
  obtain ⟨tooMany, beyond⟩ := wants.exhausts concludes
  exact ⟨last, reason, ⟨reached, ending, ended, ends, tooMany⟩, stopped, wants, beyond⟩

omit [DecidableEq κ] [Failure ε κ] [Recorder κ τ] in
theorem Point.stops_of_stop (stopped : p.rest = .stop reason) : p.stops = stopsOf p.deeds ++ [reason] := by
  unfold Point.stops
  rw [stopped]

theorem Evaluator.ExhaustedAt.isGreatest (exhausted : evaluator.ExhaustedAt respond routine w p)
    (stopped : p.rest = .stop reason) (beyond : evaluator.limit < p.attempt + reason.charge) :
    IsGreatest {j | j ≤ p.stops.length ∧ 1 + ((p.stops.map Interrupt.charge).take j).sum ≤ evaluator.limit}
      (handlersRun p.deeds) := by
  have charged := exhausted.reached.attempt_eq_charges
  have within := exhausted.reached.attempt_le_limit
  rw [charged] at within beyond
  have greatest := isGreatest_of_charges within beyond
  rw [exhausted.reached.handlersRun_eq_stops, Point.stops_of_stop stopped]
  simpa only [List.map_append, List.length_append, List.length_map, List.map_cons, List.map_nil, List.length_cons,
    List.length_nil] using greatest

theorem Evaluator.ExhaustedAt.handlersRun_eq (exhausted : evaluator.ExhaustedAt respond routine w p)
    (stopped : p.rest = .stop reason) (beyond : evaluator.limit < p.attempt + reason.charge) {charge : Nat}
    (alike : ∀ r ∈ p.stops, r.charge = charge) : handlersRun p.deeds = (evaluator.limit - 1) / charge := by
  have charged := exhausted.reached.attempt_eq_charges
  have within := exhausted.reached.attempt_le_limit
  rw [charged] at within beyond
  rw [Point.stops_of_stop stopped] at alike
  have last : reason.charge = charge := alike reason (List.mem_append_right _ List.mem_cons_self)
  have each : ∀ c ∈ (stopsOf p.deeds).map Interrupt.charge, c = charge := by
    intro c member
    obtain ⟨r, stop, rfl⟩ := List.mem_map.mp member
    exact alike r (List.mem_append_left _ stop)
  rw [last] at beyond
  have counted := length_of_charges each within beyond
  rwa [List.length_map, ← exhausted.reached.handlersRun_eq_stops] at counted

theorem Evaluator.Reaches.forall_stops {way : Interrupt ε → Prop}
    (ways : ∀ body n d w', Runs respond evaluator.limit routine w body n d w' →
      ∀ reason d' w'', body.stopIn n d w' = some (reason, d', w'') → way reason)
    (reached : evaluator.Reaches respond routine w p) : ∀ reason ∈ p.stops, way reason := by
  have here : ∀ q, evaluator.Reaches respond routine w q → ∀ reason, q.rest = .stop reason → way reason := by
    intro q reached reason stopped
    obtain ⟨body, d, w', runs, same⟩ := reached.runs
    rw [stopped, Routine.stopIn_stop] at same
    exact ways body _ d w' runs reason _ _ same
  have before : ∀ reason ∈ stopsOf p.deeds, way reason := by
    induction reached with
    | refl => exact nofun
    | tail reached step ih =>
      cases step with
      | call =>
        rw [stopsOf_operation]
        exact ih
      | recover =>
        rw [stopsOf_recovery]
        exact List.forall_mem_append.mpr ⟨ih, List.forall_mem_singleton.mpr (here _ reached _ rfl)⟩
  refine List.forall_mem_append.mpr ⟨before, ?_⟩
  split
  · rename_i reason stopped
    exact List.forall_mem_singleton.mpr (here p reached reason stopped)
  · exact nofun

theorem Evaluator.exhausted_alike {charge : Nat}
    (stops : ∀ body n d w', Runs respond evaluator.limit routine w body n d w' →
      ∃ reason d' w'', body.stopIn n d w' = some (reason, d', w'') ∧ Undeciding d' reason ∧ reason.charge = charge) :
    ∃ last, evaluator.ExhaustedAt respond routine w last ∧ handlersRun last.deeds = (evaluator.limit - 1) / charge := by
  have undeciding : ∀ body n d w', Runs respond evaluator.limit routine w body n d w' →
      body.StopsUndeciding n d w' := by
    intro body n d w' runs
    obtain ⟨reason, d', w'', stop, undeciding, _⟩ := stops body n d w' runs
    exact ⟨reason, d', w'', stop, undeciding⟩
  obtain ⟨last, reason, exhausted, stopped, -, beyond⟩ := Evaluator.exhausted_of_undeciding undeciding
  refine ⟨last, exhausted, exhausted.handlersRun_eq stopped beyond ?_⟩
  refine exhausted.reached.forall_stops fun body n d w' runs reason d' w'' stop => ?_
  obtain ⟨_, _, _, stop', _, alike⟩ := stops body n d w' runs
  cases stop.symm.trans stop'
  exact alike

/-! ### Handlers that want a handler again -/

/-- Run where each of some kinds has its handler, the body fails with one of these kinds and leaves them their handlers. -/
def Routine.RaisesAmong (body : Routine κ ε η σ τ Option Empty) (kinds : List κ) (handler : κ → η) : Prop :=
  ∀ n d w, (∀ k ∈ kinds, d.handlers.find? (.raised k) = some (handler k)) →
    ∃ e d' w', Failure.kind e ∈ kinds ∧ body.stopIn n d w = some (.failed (.raised e), d', w') ∧
      ∀ k ∈ kinds, d'.handlers.find? (.raised k) = some (handler k)

/-- Run where nothing is staged and there is a handler for that, the body decides, and leaves both as they were. -/
def Routine.DecidesOnNothing (body : Routine κ ε η σ τ Option Empty) (handler : η) : Prop :=
  ∀ n d w, d.verdict = .undefined → d.handlers.find? .undefined = some handler →
    ∃ d' w', body.stopIn n d w = some (.decided, d', w') ∧ d'.verdict = .undefined ∧
      d'.handlers.find? .undefined = some handler

def Routine.onEach (kinds : List κ) (handler : κ → η) : Routine κ ε η σ τ Option Unit :=
  kinds.forM fun k => Routine.onErr k (handler k)

omit [Failure ε κ] in
theorem Routine.stopIn_onEach (kinds : List κ) (handler : κ → η) (next : Routine κ ε η σ τ Option Empty) (n : Nat)
    (d : Decision κ η) (w : World σ τ) :
    ∃ d' w', (Routine.onEach kinds handler >>= fun _ => next).stopIn n d w = next.stopIn n d' w' ∧
      ∀ k, k ∈ kinds ∨ d.handlers.find? (.raised k) = some (handler k) →
        d'.handlers.find? (.raised k) = some (handler k) := by
  induction kinds generalizing d w with
  | nil => exact ⟨d, w, rfl, fun k known => known.resolve_left List.not_mem_nil⟩
  | cons kind kinds ih =>
    obtain ⟨d', w', stops, kept⟩ := ih { d with handlers := d.handlers.insert (.raised kind) (handler kind) }
      (if d.handlers.handles (.raised kind) then w.record (.replaced (.raised kind)) else w)
    refine ⟨d', w', stops, fun k known => kept k ?_⟩
    by_cases same : k = kind
    · refine .inr ?_
      rw [same, HandlerTable.find?_insert, if_pos rfl]
    · have different : Slot.raised k ≠ .raised kind := fun equal => same (Slot.raised.inj equal)
      rw [HandlerTable.find?_insert, if_neg different]
      exact known.imp_left fun member => (List.mem_cons.mp member).resolve_left same

theorem Runs.raises {kinds : List κ} {handler : κ → η} {first : Routine κ ε η σ τ Option Empty}
    (raises : first.RaisesAmong kinds handler)
    (again : ∀ e : ε, Failure.kind e ∈ kinds → (respond (handler (Failure.kind e)) (.raised e)).RaisesAmong kinds handler)
    (runs : Runs respond limit (Routine.onEach kinds handler >>= fun _ => first) start body n d w) :
    ∃ e d' w', Failure.kind e ∈ kinds ∧ body.stopIn n d w = some (.failed (.raised e), d', w') ∧
      ∀ k ∈ kinds, d'.handlers.find? (.raised k) = some (handler k) := by
  induction runs with
  | routine =>
    obtain ⟨d', w', stops, kept⟩ := Routine.stopIn_onEach kinds handler first 1 {} start
    rw [stops]
    exact raises 1 d' w' fun k member => kept k (.inl member)
  | handler _ stops recovers ih =>
    obtain ⟨e, d', w', member, stops', table⟩ := ih
    cases stops.symm.trans stops'
    obtain ⟨pends, found, _⟩ := recovers
    cases pends
    cases found.symm.trans (table _ member)
    exact again e member _ _ _ table

theorem Runs.decides {handler : η} {first : Routine κ ε η σ τ Option Empty} (decides : first.DecidesOnNothing handler)
    (again : (respond handler .undefined).DecidesOnNothing handler)
    (runs : Runs respond limit (Routine.onUndefined handler >>= fun _ => first) start body n d w) :
    ∃ d' w', body.stopIn n d w = some (.decided, d', w') ∧ d'.verdict = .undefined ∧
      d'.handlers.find? .undefined = some handler := by
  induction runs with
  | routine =>
    have found : ((default : Decision κ η).handlers.insert .undefined handler).find? .undefined = some handler := by
      rw [HandlerTable.find?_insert, if_pos rfl]
    exact decides 1 ⟨.undefined, (default : Decision κ η).handlers.insert .undefined handler⟩ start rfl found
  | handler _ stops recovers ih =>
    obtain ⟨d', w', stops', nothing, table⟩ := ih
    cases stops.symm.trans stops'
    obtain ⟨pends, found, _⟩ := recovers
    cases pends
    cases found.symm.trans table
    exact again _ _ _ nothing table

end

/-- An evaluation whose bodies all stop so that it can go on ends at the ceiling, after the most handlers that their
charges leave room for; where all are charged alike, that is the room divided by the charge. So handlers that raise one
another's kinds, or each its own, are run once less often than the ceiling says, and a handler that decides on nothing
again is run half as often as that, whatever else they do. -/
theorem undeciding_exhausts [DecidableEq κ] [Failure ε κ] [Recorder κ τ] (evaluator : Evaluator)
    (respond : η → Fault ε → Routine κ ε η σ τ Option Empty) (w : World σ τ) :
    (∀ routine, (∀ body n d w', Runs respond evaluator.limit routine w body n d w' → body.StopsUndeciding n d w') →
      ∃ last, evaluator.ExhaustedAt respond routine w last ∧
        IsGreatest {j | j ≤ last.stops.length ∧ 1 + ((last.stops.map Interrupt.charge).take j).sum ≤ evaluator.limit}
          (handlersRun last.deeds) ∧
        ∀ charge, (∀ reason ∈ last.stops, reason.charge = charge) →
          handlersRun last.deeds = (evaluator.limit - 1) / charge) ∧
    (∀ (kinds : List κ) (handler : κ → η) (first : Routine κ ε η σ τ Option Empty), first.RaisesAmong kinds handler →
      (∀ e : ε, Failure.kind e ∈ kinds → (respond (handler (Failure.kind e)) (.raised e)).RaisesAmong kinds handler) →
      ∃ last, evaluator.ExhaustedAt respond (Routine.onEach kinds handler >>= fun _ => first) w last ∧
        handlersRun last.deeds = evaluator.limit - 1) ∧
    ∀ handler (first : Routine κ ε η σ τ Option Empty), first.DecidesOnNothing handler →
      (respond handler .undefined).DecidesOnNothing handler →
      ∃ last, evaluator.ExhaustedAt respond (Routine.onUndefined handler >>= fun _ => first) w last ∧
        handlersRun last.deeds = (evaluator.limit - 1) / 2 := by
  refine ⟨fun routine undeciding => ?_, fun kinds handler first raises again => ?_, fun handler first decides again => ?_⟩
  · obtain ⟨last, reason, exhausted, stopped, -, beyond⟩ := Evaluator.exhausted_of_undeciding undeciding
    exact ⟨last, exhausted, exhausted.isGreatest stopped beyond, fun _ => exhausted.handlersRun_eq stopped beyond⟩
  · rw [← Nat.div_one (evaluator.limit - 1)]
    refine Evaluator.exhausted_alike fun body n d w' runs => ?_
    obtain ⟨e, d', w'', member, stops, table⟩ := runs.raises raises again
    have handled : d'.handlers.handles (Fault.raised e).slot = true := Option.isSome_of_eq_some (table _ member)
    exact ⟨_, d', w'', stops, .failed handled, rfl⟩
  · refine Evaluator.exhausted_alike fun body n d w' runs => ?_
    obtain ⟨d', w'', stops, nothing, table⟩ := runs.decides decides again
    exact ⟨_, d', w'', stops, .unstaged nothing (Option.isSome_of_eq_some table), rfl⟩

/-- Bodies that decide on nothing and bodies that fail, by turns; two handlers that stage a verdict and then raise each
other's kinds; and a handler that decides on nothing. -/
theorem undeciding_exhausts_by_turns :
    let evaluator : Evaluator := ⟨⟨5⟩, by decide⟩
    let respond : Bool → Fault Script.Mishap → Routine String Script.Mishap Bool Script.Vars Script.Entry Option Empty :=
      fun deciding _ => if deciding then Routine.decide else Routine.raise ⟨"net", 7⟩
    let swapping : Bool → Fault Script.Mishap → Routine String Script.Mishap Bool Script.Vars Script.Entry Option Empty :=
      fun first _ => Routine.setAccept >>= fun _ => Routine.raise ⟨if first then "disk" else "net", 7⟩
    let routine := Routine.onErr "net" true >>= fun _ => Routine.onUndefined false >>= fun _ => Routine.decide
    let start : Script.World := ⟨{}, []⟩
    (∃ last, evaluator.ExhaustedAt respond routine start last ∧
      IsGreatest {j | j ≤ last.stops.length ∧ 1 + ((last.stops.map Interrupt.charge).take j).sum ≤ 5}
        (handlersRun last.deeds)) ∧
    (∃ last, evaluator.ExhaustedAt swapping
        (Routine.onEach ["net", "disk"] (· == "net") >>= fun _ => Routine.raise ⟨"net", 7⟩) start last ∧
      handlersRun last.deeds = 4) ∧
    ∃ last, evaluator.ExhaustedAt respond (Routine.onUndefined true >>= fun _ => Routine.decide) start last ∧
      handlersRun last.deeds = 2 := by
  intro evaluator respond swapping routine start
  obtain ⟨turns, -, decides⟩ := undeciding_exhausts evaluator respond start
  obtain ⟨-, raises, -⟩ := undeciding_exhausts evaluator swapping start
  refine ⟨?_, ?_, ?_⟩
  · have stops : ∀ body n d w', Runs respond evaluator.limit routine start body n d w' →
        ∃ reason d' w'', body.stopIn n d w' = some (reason, d', w'') ∧ Undeciding d' reason ∧ d'.verdict = .undefined ∧
          d'.handlers.handles (.raised "net") = true ∧ d'.handlers.handles .undefined = true := by
      intro body n d w' runs
      induction runs with
      | routine => exact ⟨_, _, _, rfl, .unstaged rfl rfl, rfl, rfl, rfl⟩
      | @handler _ _ _ _ _ _ _ deciding _ _ _ _ stops _ ih =>
        obtain ⟨_, _, _, stops', _, nothing, failing, undefined⟩ := ih
        cases stops.symm.trans stops'
        cases deciding with
        | true => exact ⟨_, _, _, rfl, .unstaged nothing undefined, nothing, failing, undefined⟩
        | false => exact ⟨_, _, _, rfl, .failed failing, nothing, failing, undefined⟩
    obtain ⟨last, exhausted, greatest, -⟩ := turns routine fun body n d w' runs => by
      obtain ⟨reason, d', w'', stops, undeciding, -⟩ := stops body n d w' runs
      exact ⟨reason, d', w'', stops, undeciding⟩
    exact ⟨last, exhausted, greatest⟩
  · let failing : Routine String Script.Mishap Bool Script.Vars Script.Entry Option Empty := Routine.raise ⟨"net", 7⟩
    have first : failing.RaisesAmong ["net", "disk"] (· == "net") :=
      fun _ d w table => ⟨⟨"net", 7⟩, d, w, by decide, rfl, table⟩
    have again : ∀ e : Script.Mishap, Failure.kind e ∈ ["net", "disk"] →
        (swapping (Failure.kind e == "net") (.raised e)).RaisesAmong ["net", "disk"] (· == "net") := by
      intro e _ _ _ _ table
      refine ⟨⟨if Failure.kind e == "net" then "disk" else "net", 7⟩, _, _, ?_, rfl, table⟩
      cases Failure.kind e == "net" <;> decide
    exact raises ["net", "disk"] (· == "net") failing first again
  · have again : (respond true .undefined).DecidesOnNothing true :=
      fun _ d w nothing found => ⟨d, w, rfl, nothing, found⟩
    have half : (evaluator.limit - 1) / 2 = 2 := by decide
    exact half ▸ decides true _ again again

end Adjudication
