import Adjudication.Proofs.Evaluation.Attempts
import Adjudication.Proofs.Evaluation.Correspondence
import Adjudication.Proofs.Evaluation.Registration
import Mathlib.Data.List.Chain

/-!
# What the log of an evaluation says

Each entry that is written in the course of an evaluation is an event of the evaluation itself, or an act of a body
wrote it. `log_tells` says what can be read off the events: which handlers were run, as which attempts and on which
faults, which registrations took the place of others, and how the evaluation ended.
-/

namespace Adjudication

variable {κ ε η σ τ : Type}

/-! ### Lines -/

/-- An entry of the log, and who wrote it. What an evaluation inside an act tells about itself is written by that act. -/
inductive Line (κ τ : Type) where
  | own (event : Event κ)
  | outside (entry : τ)

def Line.entry [Recorder κ τ] : Line κ τ → τ
  | .own event => Recorder.entry event
  | .outside entry => entry

def Line.event? : Line κ τ → Option (Event κ)
  | .own event => some event
  | .outside _ => none

/-- What the evaluation tells about itself. -/
def events (lines : List (Line κ τ)) : List (Event κ) := lines.filterMap Line.event?

def Event.dispatch? : Event κ → Option (Slot κ × Nat)
  | .dispatching slot attempt => some (slot, attempt)
  | _ => none

/-- The handlers that it says are run: for the fault of which slot, as which attempt. -/
def dispatches (lines : List (Line κ τ)) : List (Slot κ × Nat) := (events lines).filterMap Event.dispatch?

def attemptsTold (lines : List (Line κ τ)) : List Nat := (dispatches lines).map Prod.snd

def Event.isTerminal : Event κ → Bool
  | .finalized _ _ | .propagating _ | .ceilingReached _ => true
  | .dispatching _ _ | .replaced _ => false

variable {lines more : List (Line κ τ)}

theorem events_append : events (lines ++ more) = events lines ++ events more := List.filterMap_append

theorem dispatches_append : dispatches (lines ++ more) = dispatches lines ++ dispatches more := by
  unfold dispatches
  rw [events_append, List.filterMap_append]

theorem attemptsTold_append : attemptsTold (lines ++ more) = attemptsTold lines ++ attemptsTold more := by
  unfold attemptsTold
  rw [dispatches_append, List.map_append]

theorem events_outside (entries : List τ) : events (entries.map Line.outside : List (Line κ τ)) = [] := by
  unfold events
  rw [List.filterMap_map, List.filterMap_eq_nil_iff]
  exact fun _ _ => rfl

theorem entries_outside [Recorder κ τ] (entries : List τ) :
    (entries.map Line.outside : List (Line κ τ)).map Line.entry = entries := by
  rw [List.map_map]
  exact List.map_id entries

theorem handlersRun_eq_length (deeds : List (Deed κ ε η)) : handlersRun deeds = (recoveries deeds).length := by
  induction deeds with
  | nil => rfl
  | cons deed deeds ih =>
    cases deed with
    | staged | registered | stopped => exact ih
    | recovered =>
      unfold handlersRun at ih ⊢
      rw [List.countP_cons_of_pos rfl, ih]
      rfl

/-! ### What an operation writes -/

section

variable [DecidableEq κ] {β : Type}

def Operation.written (d : Decision κ η) (s : σ) : Operation κ η σ τ Option β → List (Line κ τ)
  | .register slot _ => if d.handlers.handles slot then [.own (.replaced slot)] else []
  | .act f =>
    match f s with
    | some (_, entries, _) => entries.map .outside
    | none => []
  | _ => []

variable {d d' : Decision κ η} {n : Nat} {s : σ} {w w' : World σ τ} {given : β}

theorem Operation.written_register (slot : Slot κ) (handler : η) :
    (Operation.register slot handler : Operation κ η σ τ Option Unit).written d s =
      if d.handlers.handles slot then [.own (.replaced slot)] else [] := rfl

theorem Operation.events_written_act (f : Act σ τ Option β) :
    events ((Operation.act f : Operation κ η σ τ Option β).written d s) = [] := by
  cases answer : f s with
  | none => simp [written, answer, events]
  | some out => simp [written, answer, events_outside]

theorem Operation.trace_written [Recorder κ τ] {operation : Operation κ η σ τ Option β}
    (returned : operation.run n d w = some (given, d', w')) :
    w'.trace = w.trace ++ (operation.written d w.state).map Line.entry := by
  cases operation with
  | attempts | verdict | handlers | stage =>
    cases returned
    exact (List.append_nil _).symm
  | register slot handler =>
    cases returned
    rw [written_register, HandlerTable.register_replaced]
    cases d.handlers.handles slot with
    | true => exact World.trace_record w _
    | false => exact (List.append_nil _).symm
  | act f =>
    obtain ⟨entries, s, answer, rfl, rfl⟩ := Operation.run_act_eq_some_iff.mp returned
    simp only [written, answer]
    rw [World.trace_after, entries_outside]

theorem Operation.events_written (operation : Operation κ η σ τ Option β) (d : Decision κ η) (s : σ) :
    events (operation.written d s) = [] ∨ ∃ slot, events (operation.written d s) = [.replaced slot] := by
  cases operation with
  | attempts | verdict | handlers | stage => exact .inl rfl
  | register slot handler =>
    rw [written_register]
    split
    · exact .inr ⟨slot, rfl⟩
    · exact .inl rfl
  | act f => exact .inl (events_written_act f)

theorem Operation.dispatches_written (operation : Operation κ η σ τ Option β) (d : Decision κ η) (s : σ) :
    dispatches (operation.written d s) = [] := by
  unfold dispatches
  rcases operation.events_written d s with none | ⟨slot, replaced⟩
  · rw [none, List.filterMap_nil]
  · rw [replaced]
    rfl

end

variable [DecidableEq κ] [Failure ε κ] [Recorder κ τ]

/-! ### Steps that write -/

/-- A step of an evaluation, with what it writes. -/
inductive Writes (respond : η → Fault ε → Routine κ ε η σ τ Option Empty) (limit : Nat) :
    Point κ ε η σ τ → List (Line κ τ) → Point κ ε η σ τ → Prop where
  | call {n d w done β given d' w'} {operation : Operation κ η σ τ Option β}
      {next : β → Routine κ ε η σ τ Option Empty} (returned : operation.run n d w = some (given, d', w')) :
      Writes respond limit ⟨n, .call operation next, d, w, done⟩ (operation.written d w.state)
        ⟨n, next given, d', w', done ++ operation.deeds⟩
  | recover {n d w done reason handler fault n' w'} (recovers : Recovers limit n d w reason handler fault n' w') :
      Writes respond limit ⟨n, .stop reason, d, w, done⟩ [.own (.dispatching fault.slot n')]
        ⟨n', respond handler fault, d, w', done ++ [.stopped reason, .recovered handler fault]⟩

inductive Logs (respond : η → Fault ε → Routine κ ε η σ τ Option Empty) (limit : Nat) :
    Point κ ε η σ τ → List (Line κ τ) → Point κ ε η σ τ → Prop where
  | refl {p} : Logs respond limit p [] p
  | tail {p q r lines more} (logs : Logs respond limit p lines q) (writes : Writes respond limit q more r) :
      Logs respond limit p (lines ++ more) r

variable {respond : η → Fault ε → Routine κ ε η σ τ Option Empty} {limit : Nat} {p q r : Point κ ε η σ τ}
  {routine : Routine κ ε η σ τ Option Empty} {w : World σ τ} {evaluator : Evaluator} {ending : Ending κ ε η σ τ}

theorem Writes.step (writes : Writes respond limit p more q) : Step respond limit p q := by
  cases writes with
  | call returned => exact .call returned
  | recover recovers => exact .recover recovers

theorem Step.writes (step : Step respond limit p q) : ∃ more, Writes respond limit p more q := by
  cases step with
  | call returned => exact ⟨_, .call returned⟩
  | recover recovers => exact ⟨_, .recover recovers⟩

theorem Logs.steps (logs : Logs respond limit p lines q) : Relation.ReflTransGen (Step respond limit) p q := by
  induction logs with
  | refl => exact .refl
  | tail _ writes ih => exact ih.tail writes.step

theorem exists_logs (steps : Relation.ReflTransGen (Step respond limit) p q) :
    ∃ lines, Logs respond limit p lines q := by
  induction steps with
  | refl => exact ⟨[], .refl⟩
  | tail _ step ih =>
    obtain ⟨lines, logs⟩ := ih
    obtain ⟨more, writes⟩ := step.writes
    exact ⟨lines ++ more, logs.tail writes⟩

theorem Writes.trace_eq (writes : Writes respond limit p more q) :
    q.world.trace = p.world.trace ++ more.map Line.entry := by
  cases writes with
  | call returned => exact Operation.trace_written returned
  | recover recovers =>
    obtain ⟨_, _, _⟩ := recovers
    exact World.trace_record _ _

theorem Logs.trace_eq (logs : Logs respond limit p lines q) :
    q.world.trace = p.world.trace ++ lines.map Line.entry := by
  induction logs with
  | refl => exact (List.append_nil _).symm
  | tail _ writes ih => rw [writes.trace_eq, ih, List.map_append, List.append_assoc]

/-! ### Handlers that are run -/

theorem Writes.of_stop {reason : Interrupt ε} (stopped : p.rest = .stop reason) (writes : Writes respond limit p more q) :
    ∃ handler fault, q.rest = respond handler fault ∧ recoveries q.deeds = recoveries p.deeds ++ [(handler, fault)] ∧
      more = [.own (.dispatching fault.slot q.attempt)] := by
  cases writes with
  | call => cases stopped
  | recover => exact ⟨_, _, rfl, recoveries_append _ _, rfl⟩

theorem Writes.reads_attempts {next : Nat → Routine κ ε η σ τ Option Empty} (asks : p.rest = .call .attempts next)
    (writes : Writes respond limit p more q) : q.rest = next p.attempt := by
  cases writes with
  | recover => cases asks
  | call returned =>
    cases asks
    cases returned
    rfl

theorem Writes.handlersRun_eq (writes : Writes respond limit p more q) :
    handlersRun q.deeds = handlersRun p.deeds + (dispatches more).length := by
  cases writes with
  | call => rw [handlersRun_operation, Operation.dispatches_written, List.length_nil, Nat.add_zero]
  | recover => exact handlersRun_recovery _ _ _ _

theorem Logs.handlersRun_eq (logs : Logs respond limit p lines q) :
    handlersRun q.deeds = handlersRun p.deeds + (dispatches lines).length := by
  induction logs with
  | refl => rfl
  | tail _ writes ih =>
    rw [writes.handlersRun_eq, ih, dispatches_append, List.length_append, Nat.add_assoc]

/-- As long as no other handler is run, none is told to be, and the attempt stays. -/
theorem Logs.within_body (logs : Logs respond limit p lines q) (same : recoveries q.deeds = recoveries p.deeds) :
    q.attempt = p.attempt ∧ dispatches lines = [] := by
  have run : handlersRun q.deeds = handlersRun p.deeds := by
    rw [handlersRun_eq_length, handlersRun_eq_length, same]
  have told := logs.handlersRun_eq
  exact ⟨attempt_eq_of_steps logs.steps run, List.eq_nil_of_length_eq_zero (by omega)⟩

/-! ### Handlers that are replaced -/

theorem Writes.events_length_le (writes : Writes respond limit p more q) : (events more).length ≤ 1 := by
  cases writes with
  | recover => exact Nat.le_refl 1
  | @call _ d w _ _ _ _ _ operation =>
    rcases operation.events_written d w.state with none | ⟨slot, replaced⟩
    · rw [none]
      exact Nat.zero_le 1
    · rw [replaced]
      exact Nat.le_refl 1

theorem Writes.replaced_iff (writes : Writes respond limit p more q) (slot : Slot κ) :
    .replaced slot ∈ events more ↔
      (∃ handler, q.deeds = p.deeds ++ [.registered slot handler]) ∧ p.decision.handlers.handles slot = true := by
  cases writes with
  | @recover _ _ _ done =>
    refine ⟨fun told => ?_, fun ⟨⟨_, registered⟩, _⟩ => ?_⟩
    · cases List.mem_singleton.mp told
    · cases List.append_cancel_left registered
  | @call _ d w done _ _ _ _ operation =>
    cases operation with
    | attempts | verdict | handlers | stage =>
      refine ⟨fun told => absurd told List.not_mem_nil, fun ⟨⟨_, registered⟩, _⟩ => ?_⟩
      cases List.append_cancel_left registered
    | act f =>
      rw [Operation.events_written_act]
      refine ⟨fun told => absurd told List.not_mem_nil, fun ⟨⟨_, registered⟩, _⟩ => ?_⟩
      cases List.append_cancel_left registered
    | register other handler =>
      rw [Operation.written_register]
      constructor
      · intro told
        split at told
        · rename_i filled
          cases List.mem_singleton.mp told
          exact ⟨⟨handler, rfl⟩, filled⟩
        · exact absurd told List.not_mem_nil
      · rintro ⟨⟨_, registered⟩, filled⟩
        cases List.append_cancel_left registered
        rw [if_pos filled]
        exact List.mem_singleton_self _

/-! ### The whole log -/

/-- What the log up to a point says of it: the evaluation goes on; the handlers that were run, each told once with the
slot of the fault it received; and their attempts, the last of which is the current one. -/
structure Point.ToldBy (p : Point κ ε η σ τ) (limit : Nat) (lines : List (Line κ τ)) : Prop where
  going : ∀ event ∈ events lines, event.isTerminal = false
  handlers : (dispatches lines).map Prod.fst = (recoveries p.deeds).map fun run => run.2.slot
  current : (1 :: attemptsTold lines).getLast? = some p.attempt
  rising : List.IsChain (fun n n' => n < n' ∧ n' ≤ n + 2) (1 :: attemptsTold lines)
  within : ∀ n ∈ attemptsTold lines, 2 ≤ n ∧ n ≤ limit

omit [DecidableEq κ] [Failure ε κ] [Recorder κ τ] in
theorem Pends.le_succ {n n' : Nat} {reason : Interrupt ε} {d : Decision κ η} {fault : Fault ε}
    (pends : Pends limit n reason d fault n') : n' ≤ n + 1 := by
  cases pends <;> omega

theorem Writes.told (writes : Writes respond limit p more q) (positive : 1 ≤ p.attempt) (told : p.ToldBy limit lines) :
    q.ToldBy limit (lines ++ more) := by
  obtain ⟨going, handlers, current, rising, within⟩ := told
  cases writes with
  | @call _ d w _ _ _ _ _ operation =>
    -- An operation tells of no handler that is run, so only the events themselves have to be looked at.
    have none := operation.dispatches_written d w.state
    have attempts : attemptsTold (lines ++ operation.written d w.state) = attemptsTold lines := by
      unfold attemptsTold
      rw [dispatches_append, none, List.append_nil]
    refine ⟨?_, ?_, by rwa [attempts], by rwa [attempts], by rwa [attempts]⟩
    · rw [events_append]
      refine List.forall_mem_append.mpr ⟨going, ?_⟩
      rcases operation.events_written d w.state with silent | ⟨slot, replaced⟩
      · rw [silent]
        exact nofun
      · rw [replaced]
        exact List.forall_mem_singleton.mpr rfl
    · rw [dispatches_append, none, List.append_nil, recoveries_append, recoveries_operation, List.append_nil]
      exact handlers
  | @recover n _ _ _ _ handler fault n' _ recovers =>
    have attempts : attemptsTold (lines ++ [.own (.dispatching fault.slot n')]) = attemptsTold lines ++ [n'] :=
      attemptsTold_append
    have later := recovers.later
    have room := recovers.within
    have near : n' ≤ n + 2 := by
      obtain ⟨pends, _, _⟩ := recovers
      exact Nat.succ_le_succ pends.le_succ
    refine ⟨?_, ?_, ?_, ?_, ?_⟩
    · rw [events_append]
      exact List.forall_mem_append.mpr ⟨going, List.forall_mem_singleton.mpr rfl⟩
    · rw [dispatches_append, List.map_append, handlers, recoveries_append, List.map_append]
      rfl
    · rw [attempts, ← List.cons_append, List.getLast?_concat]
    · rw [attempts, ← List.cons_append]
      refine List.isChain_append.mpr ⟨rising, .singleton n', fun last isLast first isFirst => ?_⟩
      cases Option.some.inj (current.symm.trans isLast)
      cases isFirst
      exact ⟨later, near⟩
    · rw [attempts]
      refine List.forall_mem_append.mpr ⟨within, List.forall_mem_singleton.mpr ⟨?_, room⟩⟩
      exact Nat.lt_of_le_of_lt positive later

theorem Logs.told (logs : Logs respond evaluator.limit (.start routine w) lines p) : p.ToldBy evaluator.limit lines := by
  induction logs with
  | refl => exact ⟨nofun, rfl, rfl, .singleton 1, nofun⟩
  | tail logs writes ih => exact writes.told (Evaluator.Reaches.attempt_pos logs.steps) ih

/-! ### Its end -/

/-- An event that closes the log of an evaluation says how that ended. -/
structure Event.Closes (last : Event κ) (limit : Nat) (ending : Ending κ ε η σ τ) : Prop where
  terminal : last.isTerminal = true
  finalized : ∀ accepted n, last = .finalized accepted n ↔ ending.result = .ok accepted ∧ n = ending.attempts
  propagating : ∀ slot, last = .propagating slot ↔ ∃ fault, ending.result = .error (.ofFault fault) ∧ fault.slot = slot
  exhausted : ∀ n, last = .ceilingReached n ↔ ending.result = .error (.tooManyReentries n) ∧ n = limit
  warning : last.level = .warn ↔ ∃ n, ending.result = .error (.tooManyReentries n)

omit [DecidableEq κ] [Recorder κ τ] in
theorem Event.closes_exhausted {n : Nat} {d : Decision κ η} {w : World σ τ} :
    (Event.ceilingReached limit).Closes limit
      (⟨.error (.tooManyReentries limit), n, d, w⟩ : Ending κ ε η σ τ) := by
  refine ⟨rfl, fun _ _ => ⟨nofun, fun h => nomatch h.1⟩, fun _ => ⟨nofun, ?_⟩, fun k => ⟨?_, ?_⟩,
    fun _ => ⟨limit, rfl⟩, fun _ => rfl⟩
  · rintro ⟨fault, same, -⟩
    exact absurd (Except.error.inj same).symm (DecisionError.ofFault_ne_tooManyReentries _ _)
  · rintro ⟨⟩
    exact ⟨rfl, rfl⟩
  · rintro ⟨-, rfl⟩
    rfl

theorem Concludes.closes {n : Nat} {reason : Interrupt ε} {d : Decision κ η}
    (concludes : Concludes limit n d w reason ending) :
    ∃ last : Event κ, ending.world = w.record last ∧ last.Closes limit ending := by
  cases concludes with
  | @decided accepted =>
    refine ⟨_, rfl, rfl, fun _ _ => ⟨?_, ?_⟩, fun _ => ⟨nofun, fun ⟨_, h, _⟩ => nomatch h⟩,
      fun _ => ⟨nofun, fun h => nomatch h.1⟩, nofun, fun ⟨_, h⟩ => nomatch h⟩
    · rintro ⟨⟩
      exact ⟨rfl, rfl⟩
    · rintro ⟨⟨⟩, rfl⟩
      rfl
  | unstaged | exhausted => exact ⟨_, rfl, Event.closes_exhausted⟩
  | @unhandled _ fault =>
    refine ⟨_, rfl, rfl, fun _ _ => ⟨nofun, fun h => nomatch h.1⟩, fun slot => ⟨?_, ?_⟩, fun k => ⟨nofun, ?_⟩,
      nofun, ?_⟩
    · rintro ⟨⟩
      exact ⟨fault, rfl, rfl⟩
    · rintro ⟨other, same, rfl⟩
      cases DecisionError.ofFault_injective (Except.error.inj same)
      rfl
    · rintro ⟨same, -⟩
      exact absurd (Except.error.inj same) (DecisionError.ofFault_ne_tooManyReentries _ _)
    · rintro ⟨k, same⟩
      exact absurd (Except.error.inj same) (DecisionError.ofFault_ne_tooManyReentries _ _)

/-- The log of an evaluation, as all its steps write it, says what happens in it. Before each handler's body there is
one dispatching event, with the slot of the fault that the handler receives and the attempt that its body reads
throughout; the attempts told rise, by one or by two, from above one up to the ceiling. A registration is followed by a
replaced event if its slot was filled before, and nothing else is. The last event, and no other, is a terminal one, and
which one it is says how the evaluation ended. -/
theorem log_tells (evaluator : Evaluator) (respond : η → Fault ε → Routine κ ε η σ τ Option Empty)
    (routine : Routine κ ε η σ τ Option Empty) (w : World σ τ) :
    (∀ p, evaluator.Reaches respond routine w p ↔
      ∃ lines, Logs respond evaluator.limit (.start routine w) lines p) ∧
    (∀ lines p, Logs respond evaluator.limit (.start routine w) lines p →
      p.world.trace = w.trace ++ lines.map Line.entry ∧ p.ToldBy evaluator.limit lines ∧
      (∀ reason more q, p.rest = .stop reason → Writes respond evaluator.limit p more q → ∃ handler fault,
        q.rest = respond handler fault ∧ recoveries q.deeds = recoveries p.deeds ++ [(handler, fault)] ∧
        more = [.own (.dispatching fault.slot q.attempt)] ∧
        ∀ rest r, Logs respond evaluator.limit q rest r → recoveries r.deeds = recoveries q.deeds →
          r.attempt = q.attempt ∧ dispatches rest = []) ∧
      ∀ more q, Writes respond evaluator.limit p more q →
        (∀ next, p.rest = .call .attempts next → q.rest = next p.attempt) ∧ (events more).length ≤ 1 ∧
        ∀ slot, .replaced slot ∈ events more ↔
          (∃ handler, q.deeds = p.deeds ++ [.registered slot handler]) ∧
            ∃ earlier, .registered slot earlier ∈ p.deeds) ∧
    ∀ ending, evaluator.drive respond routine w = some ending →
      ∃ lines p, ∃ last : Event κ, Logs respond evaluator.limit (.start routine w) lines p ∧
        p.EndsIn evaluator.limit ending ∧ ending.world.trace = w.trace ++ (lines ++ [Line.own last]).map Line.entry ∧
        last.Closes evaluator.limit ending := by
  refine ⟨fun p => ⟨exists_logs, fun ⟨_, logs⟩ => logs.steps⟩, fun lines p logs => ?_, fun ending ended => ?_⟩
  · refine ⟨logs.trace_eq, logs.told, fun reason more q stopped writes => ?_, fun more q writes => ?_⟩
    · obtain ⟨handler, fault, body, run, told⟩ := writes.of_stop stopped
      exact ⟨handler, fault, body, run, told, fun rest r logs same => logs.within_body same⟩
    · refine ⟨fun next asks => writes.reads_attempts asks, writes.events_length_le, fun slot => ?_⟩
      have table := Evaluator.Reaches.handlers_eq logs.steps
      rw [writes.replaced_iff, HandlerTable.handles_iff table]
  · obtain ⟨p, reached, ends⟩ := Evaluator.drive_eq_some_iff.mp ended
    obtain ⟨lines, logs⟩ := exists_logs reached
    have ⟨_, _, concludes⟩ := ends
    obtain ⟨last, recorded, closes⟩ := concludes.closes
    refine ⟨lines, p, last, logs, ends, ?_, closes⟩
    rw [recorded, World.trace_record, logs.trace_eq, List.map_append, List.append_assoc]
    rfl

/-- An evaluation whose routine runs another one, whose events are not its own, replaces a handler and then fails. -/
theorem log_tells_replaced :
    let evaluator : Evaluator := ⟨⟨3⟩, by decide⟩
    let other : Act Script.Vars Script.Entry Option Unit := fun vars => some ((), [.logged (.finalized false 1)], vars)
    let routine : Routine String Script.Mishap Bool Script.Vars Script.Entry Option Empty :=
      Routine.onErr "net" false >>= fun _ => Routine.act other >>= fun _ =>
        Routine.onErr "net" true >>= fun _ => Routine.raise ⟨"net", 7⟩
    let respond := fun _ _ => Routine.accept
    let start : Script.World := ⟨{}, []⟩
    (∃ lines p more q, Logs respond evaluator.limit (.start routine start) lines p ∧
      Writes respond evaluator.limit p more q ∧ events lines = [.replaced (.raised "net")] ∧
      p.world.trace = [.logged (.finalized false 1), .logged (.replaced (.raised "net"))] ∧
      more = [.own (.dispatching (.raised "net") q.attempt)] ∧ q.rest = Routine.accept) ∧
    ∃ ending lines p, evaluator.drive respond routine start = some ending ∧
      Logs respond evaluator.limit (.start routine start) lines p ∧
      ending.world.trace = (lines ++ [Line.own (.finalized true ending.attempts)]).map Line.entry := by
  intro evaluator other routine respond start
  obtain ⟨-, tells, closes⟩ := log_tells evaluator respond routine start
  constructor
  · obtain ⟨lines, p, more, q, logs, stopped, writes, handed, rfl⟩ : ∃ lines p more q,
        Logs respond evaluator.limit (.start routine start) lines p ∧
        p.rest = .stop (.failed (.raised ⟨"net", 7⟩)) ∧ Writes respond evaluator.limit p more q ∧
        recoveries q.deeds = recoveries p.deeds ++ [(true, .raised ⟨"net", 7⟩)] ∧
        lines = [.outside (.logged (.finalized false 1)), .own (.replaced (.raised "net"))] :=
      ⟨_, _, _, _, .tail (.tail (.tail .refl (.call rfl)) (.call rfl)) (.call rfl), rfl,
        .recover (.intro .failed rfl (by decide)), rfl, rfl⟩
    obtain ⟨trace, -, next, -⟩ := tells _ p logs
    obtain ⟨handler, fault, body, run, told, -⟩ := next _ more q stopped writes
    cases List.append_cancel_left (run.symm.trans handed)
    exact ⟨_, p, more, q, logs, writes, rfl, trace, told, body⟩
  · obtain ⟨ending, evaluates, accepted⟩ : ∃ ending : Ending String Script.Mishap Bool Script.Vars Script.Entry,
        Evaluates respond evaluator.limit routine 1 {} start ending ∧ ending.result = .ok true :=
      ⟨_, .next rfl (.intro .failed rfl (by decide)) (.last rfl (.decided rfl)), rfl⟩
    obtain ⟨lines, p, last, logs, -, trace, closes⟩ := closes ending evaluates.complete_eq
    obtain rfl := (closes.finalized true ending.attempts).mpr ⟨accepted, rfl⟩
    exact ⟨ending, lines, p, evaluates.complete_eq, logs, trace⟩

end Adjudication
