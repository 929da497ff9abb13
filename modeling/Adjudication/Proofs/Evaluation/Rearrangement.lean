import Adjudication.Proofs.Evaluation.Correspondence
import Adjudication.Proofs.Evaluation.Fallback

/-!
# Registrations in another order

To an evaluation the handler table is a map: two registrations next to each other for different slots can change places,
and one that is followed at once by another for its slot can be left out. `drive_rearranged` says that this cannot be
told, wherever the registrations are, as long as no body reads the table.
-/

namespace Adjudication

variable {κ ε η σ τ : Type} {R : η → η → Prop}

/-- The same routine with registrations rearranged, in it and in the handlers that it registers; `R` says which handlers
stand for which. What is done outside gives the same and leaves the same state. The table is not read. -/
inductive Routine.Rearranges {α : Type} (R : η → η → Prop) :
    Routine κ ε η σ τ Option α → Routine κ ε η σ τ Option α → Prop where
  | done (value : α) : Rearranges R (.done value) (.done value)
  | stop (reason : Interrupt ε) : Rearranges R (.stop reason) (.stop reason)
  | attempts {next next'} (rest : ∀ given, Rearranges R (next given) (next' given)) :
      Rearranges R (.call .attempts next) (.call .attempts next')
  | verdict {next next'} (rest : ∀ given, Rearranges R (next given) (next' given)) :
      Rearranges R (.call .verdict next) (.call .verdict next')
  | stage {next next'} (accepted : Bool) (rest : ∀ given, Rearranges R (next given) (next' given)) :
      Rearranges R (.call (.stage accepted) next) (.call (.stage accepted) next')
  | act {β : Type} {f f' : Act σ τ Option β} {next next'}
      (same : ∀ s, Option.Rel (fun out out' => out'.1 = out.1 ∧ out'.2.2 = out.2.2) (f s) (f' s))
      (rest : ∀ given, Rearranges R (next given) (next' given)) :
      Rearranges R (.call (.act f) next) (.call (.act f') next')
  | register {handler handler' next next'} (slot : Slot κ) (stands : R handler handler')
      (rest : ∀ given, Rearranges R (next given) (next' given)) :
      Rearranges R (.call (.register slot handler) next) (.call (.register slot handler') next')
  /-- Two registrations for different slots change places. -/
  | swap {slot other handler handler' another another' next next'} (different : slot ≠ other)
      (stands : R handler handler') (also : R another another')
      (rest : ∀ given, Rearranges R (next given) (next' given)) :
      Rearranges R (.call (.register slot handler) fun _ => .call (.register other another) next)
        (.call (.register other another') fun _ => .call (.register slot handler') next')
  /-- A registration is left out that another one for the same slot follows. -/
  | drop {dropped handler handler' next next'} (slot : Slot κ) (stands : R handler handler')
      (rest : ∀ given, Rearranges R (next given) (next' given)) :
      Rearranges R (.call (.register slot dropped) fun _ => .call (.register slot handler) next)
        (.call (.register slot handler') next')

/-- A routine that does not read the table is a rearrangement of itself. -/
theorem Routine.Rearranges.refl {α : Type} {x : Routine κ ε η σ τ Option α} (stands : ∀ handler, R handler handler)
    (plain : x.Avoids Operation.ReadsHandlers) : x.Rearranges R x := by
  induction x with
  | done value => exact .done value
  | stop reason => exact .stop reason
  | call operation next ih =>
    have rest := fun given => ih given (plain.2 given)
    cases operation with
    | handlers => exact absurd trivial plain.1
    | attempts => exact .attempts rest
    | verdict => exact .verdict rest
    | stage accepted => exact .stage accepted rest
    | register slot handler => exact .register slot (stands handler) rest
    | act f =>
      refine .act (fun s => ?_) rest
      cases f s with
      | none => exact .none
      | some out => exact .some ⟨rfl, rfl⟩

variable [DecidableEq κ]

/-- The same verdict, and handlers that stand for each other in the same slots. -/
structure Decision.Alike (R : η → η → Prop) (d d' : Decision κ η) : Prop where
  verdict : d'.verdict = d.verdict
  find? : ∀ slot, Option.Rel R (d.handlers.find? slot) (d'.handlers.find? slot)

/-- The same decision with a handler registered. -/
abbrev Decision.with (d : Decision κ η) (slot : Slot κ) (handler : η) : Decision κ η :=
  { d with handlers := d.handlers.insert slot handler }

namespace Decision.Alike

variable {d d' : Decision κ η} {slot other : Slot κ} {handler handler' another another' dropped : η}

theorem fresh : Decision.Alike (κ := κ) R {} {} := by
  refine ⟨rfl, fun slot => ?_⟩
  cases slot <;> exact .none

theorem stage (alike : d.Alike R d') (v : Verdict) :
    Decision.Alike R { d with verdict := v } { d' with verdict := v } :=
  ⟨rfl, alike.find?⟩

theorem insert (alike : d.Alike R d') (slot : Slot κ) (stands : R handler handler') :
    (d.with slot handler).Alike R (d'.with slot handler') := by
  refine ⟨alike.verdict, fun place => ?_⟩
  simp only [HandlerTable.find?_insert]
  split
  · exact .some stands
  · exact alike.find? place

theorem swap (alike : d.Alike R d') (different : slot ≠ other) (stands : R handler handler')
    (also : R another another') :
    ((d.with slot handler).with other another).Alike R ((d'.with other another').with slot handler') := by
  refine ⟨alike.verdict, fun place => ?_⟩
  simp only [HandlerTable.find?_insert]
  by_cases first : place = slot
  · rw [if_pos first, if_pos first, if_neg (first ▸ different)]
    exact .some stands
  · rw [if_neg first, if_neg first]
    split
    · exact .some also
    · exact alike.find? place

theorem drop (alike : d.Alike R d') (slot : Slot κ) (stands : R handler handler') :
    ((d.with slot dropped).with slot handler).Alike R (d'.with slot handler') := by
  refine ⟨alike.verdict, fun place => ?_⟩
  simp only [HandlerTable.find?_insert]
  split
  · exact .some stands
  · exact alike.find? place

end Decision.Alike

variable [Failure ε κ] [Recorder κ τ]

/-- Evaluations whose handlers stand for each other, and whose states are the same. -/
def rearranged (R : η → η → Prop) : Correspondence κ ε η σ τ κ ε η σ τ where
  kind := id
  failure := id
  handlers := R
  decisions := Decision.Alike R
  worlds w w' := w'.state = w.state
  kind_failure _ := rfl
  verdict := Decision.Alike.verdict
  find? alike slot := by
    rw [Slot.map_id]
    exact alike.find? slot
  record same event := by
    simpa using same

omit [Failure ε κ] in
/-- A registration says so in the trace if it replaces one, which changes no state. -/
theorem Routine.stopIn_register (slot : Slot κ) (handler : η) (next : Unit → Routine κ ε η σ τ Option Empty) (n : Nat)
    (d : Decision κ η) (w : World σ τ) :
    ∃ v, v.state = w.state ∧
      (Routine.call (.register slot handler) next).stopIn n d w = (next ()).stopIn n (d.with slot handler) v := by
  refine ⟨_, ?_, Routine.stopIn_call ..⟩
  split
  · exact World.state_record w _
  · rfl

theorem Routine.Rearranges.bodies {x y : Routine κ ε η σ τ Option Empty} (same : x.Rearranges R y) :
    (rearranged R).Bodies x y := by
  induction same with
  | done value => exact value.elim
  | stop reason =>
    intro n d d' w w' alike state
    exact .some ⟨(Interrupt.map_id reason).symm, alike, state⟩
  | attempts rest ih =>
    intro n d d' w w' alike state
    exact ih n n d d' w w' alike state
  | verdict rest ih =>
    intro n d d' w w' alike state
    rw [stopIn_call, stopIn_call, Operation.run, Operation.run, alike.verdict]
    exact ih d.verdict n d d' w w' alike state
  | stage accepted rest ih =>
    intro n d d' w w' alike state
    exact ih () n _ _ w w' (alike.stage (.ofBool accepted)) state
  | @act β f f' next next' same rest ih =>
    intro n d d' w w' alike state
    have state : w'.state = w.state := state
    rw [stopIn_call, stopIn_call, Operation.run, Operation.run, state, bind_assoc, bind_assoc]
    refine rel_bind (same w.state) ?_
    rintro ⟨_, entries, _⟩ ⟨given, entries', s⟩ ⟨rfl, rfl⟩
    exact ih given n d d' _ _ alike rfl
  | @register handler handler' next next' slot stands rest ih =>
    intro n d d' w w' alike state
    obtain ⟨v, kept, ran⟩ := stopIn_register slot handler next n d w
    obtain ⟨v', kept', ran'⟩ := stopIn_register slot handler' next' n d' w'
    rw [ran, ran']
    exact ih () n _ _ v v' (alike.insert slot stands) (kept'.trans (state.trans kept.symm))
  | @swap slot other handler handler' another another' next next' different stands also rest ih =>
    intro n d d' w w' alike state
    obtain ⟨u, kept, first⟩ := stopIn_register slot handler (fun _ => .call (.register other another) next) n d w
    obtain ⟨v, left, second⟩ := stopIn_register other another next n (d.with slot handler) u
    obtain ⟨u', kept', first'⟩ :=
      stopIn_register other another' (fun _ => .call (.register slot handler') next') n d' w'
    obtain ⟨v', left', second'⟩ := stopIn_register slot handler' next' n (d'.with other another') u'
    rw [first, second, first', second']
    refine ih () n _ _ v v' (alike.swap different stands also) ?_
    exact (left'.trans kept').trans (state.trans (left.trans kept).symm)
  | @drop dropped handler handler' next next' slot stands rest ih =>
    intro n d d' w w' alike state
    obtain ⟨u, kept, first⟩ := stopIn_register slot dropped (fun _ => .call (.register slot handler) next) n d w
    obtain ⟨v, left, second⟩ := stopIn_register slot handler next n (d.with slot dropped) u
    obtain ⟨v', left', ran⟩ := stopIn_register slot handler' next' n d' w'
    rw [first, second, ran]
    exact ih () n _ _ v v' (alike.drop slot stands) (left'.trans (state.trans (left.trans kept).symm))

/-- An evaluation with registrations rearranged, wherever they are and in whatever handlers, cannot be told from the one
before: either neither ends, or both end alike, with the same result, attempts, verdict and state. The handlers that
were run stand for each other, and were run on the same faults. -/
theorem drive_rearranged (evaluator : Evaluator) (respond respond' : η → Fault ε → Routine κ ε η σ τ Option Empty)
    (routine routine' : Routine κ ε η σ τ Option Empty) (w : World σ τ) (R : η → η → Prop)
    (same : routine.Rearranges R routine')
    (handlers : ∀ handler handler', R handler handler' → ∀ fault,
      (respond handler fault).Rearranges R (respond' handler' fault)) :
    ∃ p p', evaluator.Reaches respond routine w p ∧ evaluator.Reaches respond' routine' w p' ∧
      List.Forall₂ (fun run run' => R run.1 run'.1 ∧ run'.2 = run.2) (recoveries p.deeds) (recoveries p'.deeds) ∧
      (p.Stuck ∧ p'.Stuck ∧ evaluator.drive respond routine w = none ∧ evaluator.drive respond' routine' w = none ∨
        ∃ ending ending', p.EndsIn evaluator.limit ending ∧ p'.EndsIn evaluator.limit ending' ∧
          evaluator.drive respond routine w = some ending ∧ evaluator.drive respond' routine' w = some ending' ∧
          ending.Agrees ending') := by
  have start : (rearranged R).Points (.start routine w) (.start routine' w) :=
    ⟨rfl, same.bodies, .fresh, rfl, .nil⟩
  have responds : (rearranged R).Responds respond respond' := by
    intro handler handler' stands fault
    change (rearranged R).Bodies (respond handler fault) (respond' handler' (fault.map id))
    rw [Fault.map_id]
    exact (handlers handler handler' stands fault).bodies
  obtain ⟨p, p', steps, steps', runs, last⟩ := Correspondence.steps_to_end responds evaluator.limit start
  refine ⟨p, p', steps, steps', ?_, ?_⟩
  · refine runs.imp ?_
    rintro ⟨handler, fault⟩ ⟨handler', _⟩ ⟨stands, rfl⟩
    exact ⟨stands, Fault.map_id fault⟩
  · rcases last with ⟨stuck, stuck'⟩ | ⟨ending, ending', ends, ends', endings⟩
    · exact .inl ⟨stuck, stuck', Evaluator.drive_eq_none_iff.mpr ⟨p, steps, stuck⟩,
        Evaluator.drive_eq_none_iff.mpr ⟨p', steps', stuck'⟩⟩
    · refine .inr ⟨ending, ending', ends, ends', Evaluator.drive_eq_some_iff.mpr ⟨p, steps, ends⟩,
        Evaluator.drive_eq_some_iff.mpr ⟨p', steps', ends'⟩, ?_, endings.attempts, endings.decision.verdict,
        endings.world⟩
      rw [endings.result]
      cases ending.result with
      | ok accepted => rfl
      | error e => exact congrArg Except.error (DecisionError.map_id e)

/-- A handler is left out where another follows for its slot, and the handler that is run registers two handlers in the
other order before it fails itself. -/
theorem drive_rearranged_failing :
    let evaluator : Evaluator := ⟨⟨3⟩, by decide⟩
    let failing (kind : String) : Routine String Script.Mishap Bool Script.Vars Script.Entry Option Empty :=
      Routine.raise ⟨kind, 7⟩
    let routine := Routine.onErr "net" true >>= fun _ => Routine.onErr "net" false >>= fun _ => failing "net"
    let respond (accepting : Bool) (_ : Fault Script.Mishap) := if accepting then Routine.accept else
      Routine.onErr "disk" true >>= fun _ => Routine.onUndefined false >>= fun _ => failing "disk"
    let routine' := Routine.onErr "net" false >>= fun _ => failing "net"
    let respond' (accepting : Bool) (_ : Fault Script.Mishap) := if accepting then Routine.accept else
      Routine.onUndefined false >>= fun _ => Routine.onErr "disk" true >>= fun _ => failing "disk"
    let start : Script.World := ⟨{}, []⟩
    (evaluator.drive respond routine start).map (·.result.toOption) = some (some true) ∧
      ∃ ending ending', evaluator.drive respond routine start = some ending ∧
        evaluator.drive respond' routine' start = some ending' ∧ ending.Agrees ending' := by
  intro evaluator failing routine respond routine' respond' start
  have ended : (evaluator.drive respond routine start).map (·.result.toOption) = some (some true) := by
    decide +kernel
  refine ⟨ended, ?_⟩
  have same : routine.Rearranges Eq routine' := .drop (.raised "net") rfl fun _ => .stop _
  have accepts : (Routine.accept : Routine String Script.Mishap Bool Script.Vars Script.Entry Option Empty).Avoids
      Operation.ReadsHandlers := by
    refine ⟨id, fun _ => ⟨id, fun outcome => ?_⟩⟩
    cases outcome <;> trivial
  have handlers : ∀ handler handler', handler = handler' → ∀ fault,
      (respond handler fault).Rearranges Eq (respond' handler' fault) := by
    rintro (_ | _) _ rfl fault
    · exact .swap nofun rfl rfl fun _ => .stop _
    · exact .refl (fun _ => rfl) accepts
  obtain ⟨p, p', _, _, _, ⟨_, _, never, _⟩ | ⟨ending, ending', _, _, driven, driven', agrees⟩⟩ :=
    drive_rearranged evaluator respond respond' routine routine' start Eq same handlers
  · rw [never] at ended
    cases ended
  · exact ⟨ending, ending', driven, driven', agrees⟩

end Adjudication
