import Adjudication.Proofs.Evaluation.BigStep
import Adjudication.Proofs.Evaluation.Course

/-!
# A handler registered at the front

A handler that is registered before anything else is run is there for its slot until the routine or another handler
registers one in its place. As long as no body reads the handler table, that cannot be told before a fault of the slot
is left unhandled: `drive_register_first` relates the evaluations with and without the handler.
-/

namespace Adjudication

variable {κ ε η σ τ : Type} [DecidableEq κ] {slot other : Slot κ} {fallback handler : η}

/-- The same decision with a handler for a slot wherever that slot has none. -/
structure Decision.Backed (slot : Slot κ) (fallback : η) (d d' : Decision κ η) : Prop where
  verdict : d'.verdict = d.verdict
  handlers : ∀ other, d'.handlers.find? other =
    (d.handlers.find? other).or (if other = slot then some fallback else none)

namespace Decision.Backed

variable {d d' : Decision κ η} (backed : d.Backed slot fallback d')
include backed

theorem find?_of_some (found : d.handlers.find? other = some handler) : d'.handlers.find? other = some handler := by
  rw [backed.handlers, found, Option.some_or]

theorem find?_of_none (absent : d.handlers.find? slot = none) : d'.handlers.find? slot = some fallback := by
  rw [backed.handlers, absent, Option.none_or, if_pos rfl]

theorem find?_of_ne (different : other ≠ slot) (absent : d.handlers.find? other = none) :
    d'.handlers.find? other = none := by
  rw [backed.handlers, absent, Option.none_or, if_neg different]

/-- What is replaced without the handler is replaced with it. -/
theorem replaced (another : η) (replaces : (d.handlers.register other another).1 = true) :
    (d'.handlers.register other another).1 = true := by
  rw [HandlerTable.register_replaced, HandlerTable.handles_eq, Option.isSome_iff_exists] at replaces ⊢
  obtain ⟨handler, found⟩ := replaces
  exact ⟨handler, backed.find?_of_some found⟩

theorem stage (v : Verdict) : Decision.Backed slot fallback { d with verdict := v } { d' with verdict := v } :=
  ⟨rfl, backed.handlers⟩

theorem insert (place : Slot κ) (handler : η) :
    Decision.Backed slot fallback { d with handlers := d.handlers.insert place handler }
      { d' with handlers := d'.handlers.insert place handler } := by
  refine ⟨backed.verdict, fun other => ?_⟩
  simp only [HandlerTable.find?_insert]
  split
  · rfl
  · exact backed.handlers other

end Decision.Backed

/-- The same state after more was written. -/
structure World.Within (w w' : World σ τ) : Prop where
  state : w'.state = w.state
  trace : w.trace.Sublist w'.trace

theorem World.Within.after {w w' : World σ τ} (within : w.Within w') (entries : List τ) (s : σ) :
    (w.after entries s).Within (w'.after entries s) := by
  refine ⟨rfl, ?_⟩
  simpa only [World.trace_after] using within.trace.append_right entries

variable [Recorder κ τ]

omit [DecidableEq κ] in
theorem World.Within.record {w w' : World σ τ} (within : w.Within w') (event : Event κ) :
    (w.record event).Within (w'.record event) := by
  rw [World.record, World.record, within.state]
  exact within.after _ _

omit [DecidableEq κ] in
theorem World.Within.replace {w w' : World σ τ} {replaced replaced' : Bool} (within : w.Within w')
    (more : replaced = true → replaced' = true) (event : Event κ) :
    (if replaced then w.record event else w).Within (if replaced' then w'.record event else w') := by
  cases replaced with
  | true =>
    rw [more rfl]
    exact within.record event
  | false =>
    cases replaced' with
    | true =>
      refine ⟨within.state, ?_⟩
      simpa using within.trace.trans (List.sublist_append_left _ _)
    | false => exact within

/-! ### Operations -/

def Operation.ReadsHandlers {β : Type} {m : Type → Type} : Operation κ η σ τ m β → Prop
  | .handlers => True
  | _ => False

section

variable {β : Type} {operation : Operation κ η σ τ Option β} {n : Nat} {d d' e : Decision κ η} {w w' v : World σ τ}

theorem Operation.run_backed {given : β} (unread : ¬ operation.ReadsHandlers) (backed : d.Backed slot fallback d')
    (within : w.Within w') (returned : operation.run n d w = some (given, e, v)) :
    ∃ e' v', operation.run n d' w' = some (given, e', v') ∧ e.Backed slot fallback e' ∧ v.Within v' := by
  cases operation with
  | handlers => exact absurd trivial unread
  | attempts =>
    cases returned
    exact ⟨d', w', rfl, backed, within⟩
  | verdict =>
    cases returned
    exact ⟨d', w', by simp [Operation.run, backed.verdict], backed, within⟩
  | stage accepted =>
    cases returned
    exact ⟨_, w', rfl, backed.stage (.ofBool accepted), within⟩
  | register place handler =>
    cases returned
    exact ⟨_, _, rfl, backed.insert place handler, within.replace (backed.replaced handler) _⟩
  | act f =>
    obtain ⟨entries, s, answer, rfl, rfl⟩ := Operation.run_act_eq_some_iff.mp returned
    rw [← within.state] at answer
    exact ⟨d', _, Operation.run_act_eq_some_iff.mpr ⟨entries, s, answer, rfl, rfl⟩, backed, within.after entries s⟩

end

/-! ### Steps -/

/-- The same point with a handler for a slot that was registered before all that was done. -/
structure Point.Backed (slot : Slot κ) (fallback : η) (p p' : Point κ ε η σ τ) : Prop where
  attempt : p'.attempt = p.attempt
  rest : p'.rest = p.rest
  decision : p.decision.Backed slot fallback p'.decision
  world : p.world.Within p'.world
  deeds : p'.deeds = .registered slot fallback :: p.deeds

def Point.ReadsHandlers (p : Point κ ε η σ τ) : Prop :=
  match p.rest with
  | .call operation _ => operation.ReadsHandlers
  | _ => False

/-- What the caller sees of two endings is the same. -/
structure Ending.Agrees (ending ending' : Ending κ ε η σ τ) : Prop where
  result : ending'.result = ending.result
  attempts : ending'.attempts = ending.attempts
  verdict : ending'.decision.verdict = ending.decision.verdict
  state : ending'.world.state = ending.world.state

section

variable [Failure ε κ] {respond : η → Fault ε → Routine κ ε η σ τ Option Empty} {limit n n' : Nat}
  {reason : Interrupt ε} {d d' : Decision κ η} {w w' v : World σ τ} {fault : Fault ε} {ending : Ending κ ε η σ τ}
  {p p' q : Point κ ε η σ τ}

omit [Failure ε κ] in
theorem Pends.backed (pends : Pends limit n reason d fault n') (backed : d.Backed slot fallback d') :
    Pends limit n reason d' fault n' := by
  cases pends with
  | failed => exact .failed
  | unstaged nothing room => exact .unstaged (backed.verdict.trans nothing) room

theorem Recovers.backed (recovers : Recovers limit n d w reason handler fault n' v)
    (backed : d.Backed slot fallback d') (within : w.Within w') :
    ∃ v', Recovers limit n d' w' reason handler fault n' v' ∧ v.Within v' := by
  obtain ⟨pends, found, room⟩ := recovers
  exact ⟨_, .intro (pends.backed backed) (backed.find?_of_some found) room, within.record _⟩

theorem Concludes.backed (concludes : Concludes limit n d w reason ending)
    (elsewhere : ∀ fault, ending.result = .error (.ofFault fault) → fault.slot ≠ slot)
    (backed : d.Backed slot fallback d') (within : w.Within w') :
    ∃ ending', Concludes limit n d' w' reason ending' ∧ ending.Agrees ending' := by
  cases concludes with
  | decided staged =>
    exact ⟨_, .decided (backed.verdict.trans staged), rfl, rfl, backed.verdict, within.state⟩
  | unstaged nothing full =>
    exact ⟨_, .unstaged (backed.verdict.trans nothing) full, rfl, rfl, backed.verdict, within.state⟩
  | unhandled pends absent =>
    exact ⟨_, .unhandled (pends.backed backed) (backed.find?_of_ne (elsewhere _ rfl) absent), rfl, rfl,
      backed.verdict, within.state⟩
  | exhausted pends found full =>
    exact ⟨_, .exhausted (pends.backed backed) (backed.find?_of_some found) full, rfl, rfl, backed.verdict,
      within.state⟩

theorem Step.backed (step : Step respond limit p q) (unread : ¬ p.ReadsHandlers) (backed : p.Backed slot fallback p') :
    ∃ q', Step respond limit p' q' ∧ q.Backed slot fallback q' := by
  obtain ⟨attempt, rest, decision, world, deeds⟩ := p'
  obtain ⟨rfl, rfl, backed, within, rfl⟩ := backed
  cases step with
  | call returned =>
    obtain ⟨e', v', returned', backed', within'⟩ := Operation.run_backed unread backed within returned
    exact ⟨_, .call returned', rfl, rfl, backed', within', rfl⟩
  | recover recovers =>
    obtain ⟨v', recovers', within'⟩ := recovers.backed backed within
    exact ⟨_, .recover recovers', rfl, rfl, backed, within', rfl⟩

omit [Failure ε κ] in
theorem Point.Stuck.backed (stuck : p.Stuck) (backed : p.Backed slot fallback p') : p'.Stuck := by
  obtain ⟨β, operation, next, waiting, never⟩ := stuck
  exact ⟨β, operation, next, backed.rest.trans waiting, Operation.run_eq_none backed.world.state never⟩

end

/-! ### Whole evaluations -/

section

variable [Failure ε κ] {respond : η → Fault ε → Routine κ ε η σ τ Option Empty} {evaluator : Evaluator}
  {routine : Routine κ ε η σ τ Option Empty} {w : World σ τ} {p p' : Point κ ε η σ τ} {ending : Ending κ ε η σ τ}
  {fault : Fault ε}

theorem Evaluator.reaches_registered (evaluator : Evaluator) (respond : η → Fault ε → Routine κ ε η σ τ Option Empty)
    (routine : Routine κ ε η σ τ Option Empty) (w : World σ τ) (slot : Slot κ) (fallback : η) :
    ∃ p', evaluator.Reaches respond (Routine.register slot fallback >>= fun _ => routine) w p' ∧
      (Point.start routine w).Backed slot fallback p' := by
  have returned : (Operation.register slot fallback).run 1 {} w =
      some ((), { handlers := HandlerTable.empty.insert slot fallback }, w) := by
    cases slot <;> rfl
  refine ⟨_, .single (.call returned), rfl, rfl, ⟨rfl, fun other => ?_⟩, ⟨rfl, .refl _⟩, rfl⟩
  simp [Point.start, HandlerTable.find?_insert, HandlerTable.find?_empty]

theorem Evaluator.Reaches.backed (unread : ∀ p, evaluator.Reaches respond routine w p → ¬ p.ReadsHandlers)
    (reached : evaluator.Reaches respond routine w p) (slot : Slot κ) (fallback : η) :
    ∃ p', evaluator.Reaches respond (Routine.register slot fallback >>= fun _ => routine) w p' ∧
      p.Backed slot fallback p' := by
  induction reached with
  | refl => exact evaluator.reaches_registered respond routine w slot fallback
  | tail reached step ih =>
    obtain ⟨p', reached', backed⟩ := ih
    obtain ⟨q', step', backed⟩ := step.backed (unread _ reached) backed
    exact ⟨q', reached'.tail step', backed⟩

theorem Point.EndsIn.backed {limit : Nat} (ends : p.EndsIn limit ending)
    (elsewhere : ∀ fault, ending.result = .error (.ofFault fault) → fault.slot ≠ slot)
    (backed : p.Backed slot fallback p') : ∃ ending', p'.EndsIn limit ending' ∧ ending.Agrees ending' := by
  obtain ⟨reason, stopped, concludes⟩ := ends
  obtain ⟨ending', concludes', agrees⟩ := concludes.backed elsewhere backed.decision backed.world
  rw [← backed.attempt] at concludes'
  exact ⟨ending', ⟨reason, backed.rest.trans stopped, concludes'⟩, agrees⟩

/-- Where an evaluation ends in a fault of the slot, the handler for the slot is handed that fault, or the ceiling is
reached. -/
theorem Point.EndsIn.backed_of_unhandled {limit : Nat} (ends : p.EndsIn limit ending)
    (unhandled : ending.result = .error (.ofFault fault)) (backed : p.Backed fault.slot fallback p') :
    (ending.attempts < limit → p'.HandsTo limit fallback fault (ending.attempts + 1)) ∧
    (limit ≤ ending.attempts → ∃ cut, p'.EndsIn limit cut ∧ cut.result = .error (.tooManyReentries limit)) := by
  obtain ⟨reason, stopped, concludes⟩ := ends
  obtain ⟨pends, absent⟩ := concludes.pends unhandled
  have pends' := pends.backed backed.decision
  have found := backed.decision.find?_of_none absent
  have stopped' := backed.rest.trans stopped
  rw [← backed.attempt] at pends'
  exact ⟨fun room => ⟨reason, _, stopped', .intro pends' found room, rfl⟩,
    fun full => ⟨_, ⟨reason, stopped', .exhausted pends' found full⟩, rfl⟩⟩

/-- If no body reads the handler table, an evaluation with a handler registered at the front goes through the same
points. It has no end if the evaluation without it has none, and agrees with that one's end unless that is a fault of
the slot, unhandled. The handler then is handed just that fault, as one more attempt, if the ceiling allows it, and the
evaluation goes on as the handler does. -/
theorem drive_register_first (evaluator : Evaluator) (respond : η → Fault ε → Routine κ ε η σ τ Option Empty)
    (routine : Routine κ ε η σ τ Option Empty) (w : World σ τ) (slot : Slot κ) (fallback : η)
    (unread : ∀ p, evaluator.Reaches respond routine w p → ¬ p.ReadsHandlers) :
    let fronted := Routine.register slot fallback >>= fun _ => routine
    (∀ p, evaluator.Reaches respond routine w p →
      ∃ p', evaluator.Reaches respond fronted w p' ∧ p.Backed slot fallback p') ∧
    (evaluator.drive respond routine w = none → evaluator.drive respond fronted w = none) ∧
    ∀ ending, evaluator.drive respond routine w = some ending →
      ((∀ fault, ending.result = .error (.ofFault fault) → fault.slot ≠ slot) →
        ∃ ending', evaluator.drive respond fronted w = some ending' ∧ ending.Agrees ending') ∧
      ∀ fault, ending.result = .error (.ofFault fault) → fault.slot = slot →
        ∃ p p', evaluator.Reaches respond routine w p ∧ p.EndsIn evaluator.limit ending ∧
          evaluator.Reaches respond fronted w p' ∧ p.Backed slot fallback p' ∧
          (ending.attempts < evaluator.limit →
            p'.HandsTo evaluator.limit fallback fault (ending.attempts + 1) ∧
            ∃ w', w'.state = ending.world.state ∧
              evaluator.drive respond fronted w = Evaluator.complete respond evaluator.limit (respond fallback fault)
                (ending.attempts + 1) p'.decision w') ∧
          (ending.attempts = evaluator.limit → ∃ cut, evaluator.drive respond fronted w = some cut ∧
            cut.result = .error (.tooManyReentries evaluator.limit)) := by
  intro fronted
  refine ⟨fun p reached => reached.backed unread slot fallback, fun endless => ?_, fun ending ended => ?_⟩
  · obtain ⟨p, reached, stuck⟩ := Evaluator.drive_eq_none_iff.mp endless
    obtain ⟨p', reached', backed⟩ := reached.backed unread slot fallback
    exact Evaluator.drive_eq_none_iff.mpr ⟨p', reached', stuck.backed backed⟩
  · obtain ⟨p, reached, ends⟩ := Evaluator.drive_eq_some_iff.mp ended
    obtain ⟨p', reached', backed⟩ := reached.backed unread slot fallback
    refine ⟨fun elsewhere => ?_, fun fault unhandled same => ?_⟩
    · obtain ⟨ending', ends', agrees⟩ := ends.backed elsewhere backed
      exact ⟨ending', reached'.drive_of_endsIn ends', agrees⟩
    · subst same
      obtain ⟨hands, exhausted⟩ := ends.backed_of_unhandled unhandled backed
      refine ⟨p, p', reached, ends, reached', backed, fun room => ⟨hands room, ?_⟩, fun full => ?_⟩
      · obtain ⟨w', kept, goesOn⟩ := reached'.drive_of_handsTo (hands room)
        exact ⟨w', kept.trans (backed.world.state.trans ends.state_eq.symm), goesOn⟩
      · obtain ⟨cut, ends', tooMany⟩ := exhausted (Nat.le_of_eq full.symm)
        exact ⟨cut, reached'.drive_of_endsIn ends', tooMany⟩

/-- A handler at the front is not run when the routine registers its own, and is run when it does not. -/
theorem drive_register_first_guarded :
    let evaluator : Evaluator := ⟨⟨3⟩, by decide⟩
    let respond : Bool → Fault Script.Mishap → Routine String Script.Mishap Bool Script.Vars Script.Entry Option Empty :=
      fun accepted _ => Routine.stage accepted >>= fun _ => Routine.decide
    let failing := Routine.raise ⟨"net", 7⟩
    let guarded := Routine.onErr "net" false >>= fun _ => failing
    let start : Script.World := ⟨{}, []⟩
    (∃ ending, evaluator.drive respond (Routine.onErr "net" true >>= fun _ => guarded) start = some ending ∧
      ending.result = .ok false) ∧
    (∃ p, evaluator.Reaches respond (Routine.onErr "net" true >>= fun _ => failing) start p ∧
      p.HandsTo evaluator.limit true (.raised ⟨"net", 7⟩) 2) ∧
    ∃ ending, evaluator.drive respond (Routine.onErr "net" true >>= fun _ => failing) start = some ending ∧
      ending.result = .ok true := by
  intro evaluator respond failing guarded start
  have plainly : ∀ accepted fault, (respond accepted fault).Avoids Operation.ReadsHandlers :=
    fun _ _ => And.intro id fun _ => trivial
  constructor
  · have plain : guarded.Avoids Operation.ReadsHandlers := And.intro id fun _ => trivial
    obtain ⟨ending, evaluates, result⟩ : ∃ ending : Ending String Script.Mishap Bool Script.Vars Script.Entry,
        Evaluates respond evaluator.limit guarded 1 {} start ending ∧ ending.result = .ok false :=
      ⟨_, .next rfl (.intro .failed rfl (by decide)) (.last rfl (.decided rfl)), rfl⟩
    have fronted := drive_register_first evaluator respond guarded start (.raised "net") true
      fun p reached => Point.not_performs (reached.avoids plain plainly)
    obtain ⟨ending', ended', agrees⟩ := (fronted.2.2 ending evaluates.complete_eq).1 (by simp [result])
    exact ⟨ending', ended', agrees.result.trans result⟩
  · have plain : failing.Avoids Operation.ReadsHandlers := trivial
    obtain ⟨ending, evaluates, result, attempts⟩ : ∃ ending : Ending String Script.Mishap Bool Script.Vars Script.Entry,
        Evaluates respond evaluator.limit failing 1 {} start ending ∧
        ending.result = .error (.ofFault (.raised ⟨"net", 7⟩)) ∧ ending.attempts = 1 :=
      ⟨_, .last rfl (.unhandled .failed rfl), rfl, rfl⟩
    have fronted := drive_register_first evaluator respond failing start (.raised "net") true
      fun p reached => Point.not_performs (reached.avoids plain plainly)
    obtain ⟨_, p', _, _, reached', _, hands, _⟩ := (fronted.2.2 ending evaluates.complete_eq).2 _ result rfl
    rw [attempts] at hands
    obtain ⟨hands, w', _, goesOn⟩ := hands (by decide)
    exact ⟨⟨p', reached', hands⟩, _, goesOn.trans (complete_of_concludes rfl (.decided rfl)), rfl⟩

end

end Adjudication
