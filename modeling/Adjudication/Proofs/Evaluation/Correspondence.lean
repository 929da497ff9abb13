import Adjudication.Proofs.Evaluation.Course
import Adjudication.Proofs.Evaluation.History
import Mathlib.Data.List.Forall2

/-!
# Evaluations that correspond

Two evaluations correspond if what they start with does, and each body of the one stops as the same body of the other
does. A `Correspondence` says what that means for decisions and worlds, and that it lasts between bodies; so a
development that changes routines has to look at one body at a time. `steps_to_end` says that both evaluations then come
to an end, or get stuck, after the same handlers were run on the same faults.
-/

namespace Adjudication

variable {κ κ' ε ε' η η' σ σ' τ τ' : Type}

/-! ### Other names for failures -/

def Slot.map (f : κ → κ') : Slot κ → Slot κ'
  | .undefined => .undefined
  | .raised kind => .raised (f kind)

def Fault.map (f : ε → ε') : Fault ε → Fault ε'
  | .undefined => .undefined
  | .raised failure => .raised (f failure)

def Interrupt.map (f : ε → ε') : Interrupt ε → Interrupt ε'
  | .decided => .decided
  | .failed fault => .failed (fault.map f)

def DecisionError.map (f : ε → ε') : DecisionError ε → DecisionError ε'
  | .undefined => .undefined
  | .tooManyReentries limit => .tooManyReentries limit
  | .raised failure => .raised (f failure)

def Event.map (f : κ → κ') : Event κ → Event κ'
  | .finalized accepted attempts => .finalized accepted attempts
  | .dispatching slot attempt => .dispatching (slot.map f) attempt
  | .propagating slot => .propagating (slot.map f)
  | .replaced slot => .replaced (slot.map f)
  | .ceilingReached limit => .ceilingReached limit

@[simp] theorem Slot.map_id (slot : Slot κ) : slot.map id = slot := by
  cases slot <;> rfl

@[simp] theorem Fault.map_id (fault : Fault ε) : fault.map id = fault := by
  cases fault <;> rfl

@[simp] theorem Interrupt.map_id (reason : Interrupt ε) : reason.map id = reason := by
  cases reason <;> simp [map]

@[simp] theorem DecisionError.map_id (e : DecisionError ε) : e.map id = e := by
  cases e <;> rfl

theorem DecisionError.ofFault_map (f : ε → ε') (fault : Fault ε) : ofFault (fault.map f) = (ofFault fault).map f := by
  cases fault <;> rfl

/-! ### Results that may be missing, and lists of results -/

theorem rel_bind {α α' β β' : Type} {r : α → α' → Prop} {s : β → β' → Prop} {x : Option α} {y : Option α'}
    {next : α → Option β} {next' : α' → Option β'} (first : Option.Rel r x y)
    (rest : ∀ a a', r a a' → Option.Rel s (next a) (next' a')) : Option.Rel s (x >>= next) (y >>= next') := by
  cases first with
  | none => exact .none
  | some same => exact rest _ _ same

theorem rel_map {α α' β β' : Type} {r : α → α' → Prop} {s : β → β' → Prop} {x : Option α} {y : Option α'}
    {g : α → β} {g' : α' → β'} (first : Option.Rel r x y) (rest : ∀ a a', r a a' → s (g a) (g' a')) :
    Option.Rel s (x.map g) (y.map g') := by
  cases first with
  | none => exact .none
  | some same => exact .some (rest _ _ same)

theorem eq_map_of_rel {α β : Type} {r : α → β → Prop} {g : α → β} {x : Option α} {y : Option β}
    (same : Option.Rel r x y) (unique : ∀ a b, r a b → b = g a) : y = x.map g := by
  cases same with
  | none => rfl
  | some same => exact congrArg some (unique _ _ same)

theorem eq_map_of_forall₂ {α β : Type} {r : α → β → Prop} {g : α → β} {xs : List α} {ys : List β}
    (same : List.Forall₂ r xs ys) (unique : ∀ a b, r a b → b = g a) : ys = xs.map g := by
  induction same with
  | nil => rfl
  | cons first _ ih => rw [List.map_cons, ih, unique _ _ first]

/-! ### What corresponds -/

variable [DecidableEq κ] [Failure ε κ] [Recorder κ τ] [DecidableEq κ'] [Failure ε' κ'] [Recorder κ' τ']

/-- What two evaluations have to do with each other: the names for failures in the second, which handlers stand for
which, and what the decisions and the worlds have in common. -/
structure Correspondence (κ ε η σ τ κ' ε' η' σ' τ' : Type) [DecidableEq κ] [Failure ε κ] [Recorder κ τ]
    [DecidableEq κ'] [Failure ε' κ'] [Recorder κ' τ'] where
  kind : κ → κ'
  failure : ε → ε'
  handlers : η → η' → Prop
  decisions : Decision κ η → Decision κ' η' → Prop
  worlds : World σ τ → World σ' τ' → Prop
  kind_failure : ∀ e, Failure.kind (failure e) = kind (Failure.kind e)
  verdict : ∀ {d d'}, decisions d d' → d'.verdict = d.verdict
  find? : ∀ {d d'}, decisions d d' → ∀ slot,
    Option.Rel handlers (d.handlers.find? slot) (d'.handlers.find? (slot.map kind))
  record : ∀ {w w'}, worlds w w' → ∀ event, worlds (w.record event) (w'.record (event.map kind))

namespace Correspondence

variable (c : Correspondence κ ε η σ τ κ' ε' η' σ' τ')

structure Stops (out : Interrupt ε × Decision κ η × World σ τ) (out' : Interrupt ε' × Decision κ' η' × World σ' τ') :
    Prop where
  reason : out'.1 = out.1.map c.failure
  decision : c.decisions out.2.1 out'.2.1
  world : c.worlds out.2.2 out'.2.2

/-- Wherever one body stops, the other does. -/
def Bodies (body : Routine κ ε η σ τ Option Empty) (body' : Routine κ' ε' η' σ' τ' Option Empty) : Prop :=
  ∀ n d d' w w', c.decisions d d' → c.worlds w w' → Option.Rel c.Stops (body.stopIn n d w) (body'.stopIn n d' w')

/-- The handlers that stand for each other run bodies that correspond, on the same faults. -/
def Responds (respond : η → Fault ε → Routine κ ε η σ τ Option Empty)
    (respond' : η' → Fault ε' → Routine κ' ε' η' σ' τ' Option Empty) : Prop :=
  ∀ handler handler', c.handlers handler handler' → ∀ fault,
    c.Bodies (respond handler fault) (respond' handler' (fault.map c.failure))

structure Endings (ending : Ending κ ε η σ τ) (ending' : Ending κ' ε' η' σ' τ') : Prop where
  result : ending'.result = ending.result.mapError (DecisionError.map c.failure)
  attempts : ending'.attempts = ending.attempts
  decision : c.decisions ending.decision ending'.decision
  world : c.worlds ending.world ending'.world

variable {c} {limit n n' : Nat} {reason : Interrupt ε} {d : Decision κ η} {d' : Decision κ' η'} {w v : World σ τ}
  {w' : World σ' τ'} {fault : Fault ε} {handler : η} {ending : Ending κ ε η σ τ}

variable (c) in
theorem slot_map (fault : Fault ε) : (fault.map c.failure).slot = fault.slot.map c.kind := by
  cases fault with
  | undefined => rfl
  | raised e => exact congrArg Slot.raised (c.kind_failure e)

theorem find?_of_none (decisions : c.decisions d d') (absent : d.handlers.find? fault.slot = none) :
    d'.handlers.find? (fault.map c.failure).slot = none := by
  have found := c.find? decisions fault.slot
  rw [absent] at found
  rw [slot_map]
  generalize d'.handlers.find? (fault.slot.map c.kind) = handler' at found ⊢
  cases found
  rfl

theorem find?_of_some (decisions : c.decisions d d') (found : d.handlers.find? fault.slot = some handler) :
    ∃ handler', d'.handlers.find? (fault.map c.failure).slot = some handler' ∧ c.handlers handler handler' := by
  have found' := c.find? decisions fault.slot
  rw [found] at found'
  rw [slot_map]
  generalize d'.handlers.find? (fault.slot.map c.kind) = handler' at found' ⊢
  cases found' with
  | some same => exact ⟨_, rfl, same⟩

/-! ### A body that stopped -/

omit [DecidableEq κ] [Failure ε κ] [Recorder κ τ] [DecidableEq κ'] [Failure ε' κ'] [Recorder κ' τ'] in
theorem pends {f : ε → ε'} (pends : Pends limit n reason d fault n') (same : d'.verdict = d.verdict) :
    Pends limit n (reason.map f) d' (fault.map f) n' := by
  cases pends with
  | failed => exact .failed
  | unstaged nothing room => exact .unstaged (same.trans nothing) room

theorem recovers (decisions : c.decisions d d') (worlds : c.worlds w w')
    (recovers : Recovers limit n d w reason handler fault n' v) :
    ∃ handler' v', c.handlers handler handler' ∧ c.worlds v v' ∧
      Recovers limit n d' w' (reason.map c.failure) handler' (fault.map c.failure) n' v' := by
  obtain ⟨waiting, found, room⟩ := recovers
  obtain ⟨handler', found', same⟩ := find?_of_some decisions found
  refine ⟨handler', _, same, ?_, .intro (pends waiting (c.verdict decisions)) found' room⟩
  rw [slot_map]
  exact c.record worlds (.dispatching _ _)

theorem concludes (decisions : c.decisions d d') (worlds : c.worlds w w')
    (concludes : Concludes limit n d w reason ending) :
    ∃ ending', Concludes limit n d' w' (reason.map c.failure) ending' ∧ c.Endings ending ending' := by
  have same := c.verdict decisions
  cases concludes with
  | decided staged =>
    exact ⟨_, .decided (same.trans staged), rfl, rfl, decisions, c.record worlds (.finalized _ _)⟩
  | unstaged nothing full =>
    exact ⟨_, .unstaged (same.trans nothing) full, rfl, rfl, decisions, c.record worlds (.ceilingReached _)⟩
  | unhandled waiting absent =>
    refine ⟨_, .unhandled (pends waiting same) (find?_of_none decisions absent), ?_, rfl, decisions, ?_⟩
    · rw [DecisionError.ofFault_map]
      rfl
    · rw [slot_map]
      exact c.record worlds (.propagating _)
  | exhausted waiting found full =>
    obtain ⟨handler', found', _⟩ := find?_of_some decisions found
    exact ⟨_, .exhausted (pends waiting same) found' full, rfl, rfl, decisions, c.record worlds (.ceilingReached _)⟩

end Correspondence

/-! ### Handlers that were run -/

/-- The handlers that were run, each with the fault it was run on. -/
def recoveries (deeds : List (Deed κ ε η)) : List (η × Fault ε) :=
  deeds.filterMap fun
    | .recovered handler fault => some (handler, fault)
    | _ => none

section

omit [DecidableEq κ] [Failure ε κ] [Recorder κ τ]

@[simp] theorem recoveries_append (deeds more : List (Deed κ ε η)) :
    recoveries (deeds ++ more) = recoveries deeds ++ recoveries more := List.filterMap_append

@[simp] theorem recoveries_operation {β : Type} (operation : Operation κ η σ τ Option β) :
    recoveries (operation.deeds : List (Deed κ ε η)) = [] := by
  cases operation <;> rfl

end

variable {respond : η → Fault ε → Routine κ ε η σ τ Option Empty}
  {respond' : η' → Fault ε' → Routine κ' ε' η' σ' τ' Option Empty}

/-- A body gets stuck, or it comes to where it stops; no handler is run before. -/
theorem steps_of_stopIn (respond : η → Fault ε → Routine κ ε η σ τ Option Empty) (limit n : Nat)
    (body : Routine κ ε η σ τ Option Empty) (d : Decision κ η) (w : World σ τ) (done : List (Deed κ ε η)) :
    ∃ p, Relation.ReflTransGen (Step respond limit) ⟨n, body, d, w, done⟩ p ∧ p.attempt = n ∧
      recoveries p.deeds = recoveries done ∧ (p.Stuck ∧ body.stopIn n d w = none ∨
        ∃ reason, p.rest = .stop reason ∧ body.stopIn n d w = some (reason, p.decision, p.world)) := by
  induction body generalizing d w done with
  | done value => exact value.elim
  | stop reason => exact ⟨_, .refl, rfl, rfl, .inr ⟨reason, rfl, rfl⟩⟩
  | call operation next ih =>
    rw [Routine.stopIn_call]
    cases returned : operation.run n d w with
    | none => exact ⟨_, .refl, rfl, rfl, .inl ⟨⟨_, operation, next, rfl, returned⟩, rfl⟩⟩
    | some out =>
      obtain ⟨given, d', w'⟩ := out
      obtain ⟨p, steps, same, run, last⟩ := ih given d' w' (done ++ operation.deeds)
      exact ⟨p, .head (.call returned) steps, same, by simpa using run, last⟩

namespace Correspondence

variable {c : Correspondence κ ε η σ τ κ' ε' η' σ' τ'}

variable (c) in
/-- The same handlers, run on the same faults. -/
def Recoveries (deeds : List (Deed κ ε η)) (deeds' : List (Deed κ' ε' η')) : Prop :=
  List.Forall₂ (fun run run' => c.handlers run.1 run'.1 ∧ run'.2 = run.2.map c.failure) (recoveries deeds)
    (recoveries deeds')

variable (c) in
/-- Two points that are about to run bodies that correspond. -/
structure Points (p : Point κ ε η σ τ) (p' : Point κ' ε' η' σ' τ') : Prop where
  attempt : p'.attempt = p.attempt
  rest : c.Bodies p.rest p'.rest
  decision : c.decisions p.decision p'.decision
  world : c.worlds p.world p'.world
  recoveries : c.Recoveries p.deeds p'.deeds

theorem Recoveries.tail {deeds : List (Deed κ ε η)} {deeds' : List (Deed κ' ε' η')} {handler : η} {handler' : η'}
    (before : c.Recoveries deeds deeds') (same : c.handlers handler handler') (reason : Interrupt ε)
    (reason' : Interrupt ε') (fault : Fault ε) :
    c.Recoveries (deeds ++ [.stopped reason, .recovered handler fault])
      (deeds' ++ [.stopped reason', .recovered handler' (fault.map c.failure)]) := by
  unfold Recoveries at before ⊢
  rw [recoveries_append, recoveries_append]
  exact List.rel_append before (.cons ⟨same, rfl⟩ .nil)

variable (c) in
/-- Two points at which the bodies stopped, for the same reason. -/
structure Halts (p : Point κ ε η σ τ) (p' : Point κ' ε' η' σ' τ') (reason : Interrupt ε) : Prop where
  attempt : p'.attempt = p.attempt
  rest : p.rest = .stop reason
  rest' : p'.rest = .stop (reason.map c.failure)
  decision : c.decisions p.decision p'.decision
  world : c.worlds p.world p'.world
  recoveries : c.Recoveries p.deeds p'.deeds

variable {p : Point κ ε η σ τ} {p' : Point κ' ε' η' σ' τ'}

/-- Two bodies that correspond both get stuck, or they come to where they stop. -/
theorem Points.steps_to_stop (points : c.Points p p') (respond : η → Fault ε → Routine κ ε η σ τ Option Empty)
    (respond' : η' → Fault ε' → Routine κ' ε' η' σ' τ' Option Empty) (limit : Nat) :
    ∃ q q', Relation.ReflTransGen (Step respond limit) p q ∧ Relation.ReflTransGen (Step respond' limit) p' q' ∧
      q.attempt = p.attempt ∧ c.Recoveries q.deeds q'.deeds ∧
        (q.Stuck ∧ q'.Stuck ∨ ∃ reason, c.Halts q q' reason) := by
  obtain ⟨n, body, d, w, done⟩ := p
  obtain ⟨n', body', d', w', done'⟩ := p'
  obtain ⟨rfl, bodies, decisions, worlds, before⟩ := points
  have stops := bodies n' d d' w w' decisions worlds
  obtain ⟨q, steps, attempt, run, last⟩ := steps_of_stopIn respond limit n' body d w done
  obtain ⟨q', steps', attempt', run', last'⟩ := steps_of_stopIn respond' limit n' body' d' w' done'
  have after : c.Recoveries q.deeds q'.deeds := by
    unfold Recoveries
    rw [run, run']
    exact before
  refine ⟨q, q', steps, steps', attempt, after, ?_⟩
  rcases last with ⟨stuck, never⟩ | ⟨reason, stopped, stop⟩ <;>
    rcases last' with ⟨stuck', never'⟩ | ⟨reason', stopped', stop'⟩
  · exact .inl ⟨stuck, stuck'⟩
  · rw [never, stop'] at stops
    cases stops
  · rw [stop, never'] at stops
    cases stops
  · rw [stop, stop'] at stops
    obtain ⟨rfl, decisions, worlds⟩ := Option.rel_some_some.mp stops
    exact .inr ⟨reason, attempt'.trans attempt.symm, stopped, stopped', decisions, worlds, after⟩

/-- Where two bodies stopped, both evaluations end, or both run a handler next. -/
theorem Halts.step (halts : c.Halts p p' reason) (responds : c.Responds respond respond') (limit : Nat) :
    (∃ ending ending', p.EndsIn limit ending ∧ p'.EndsIn limit ending' ∧ c.Endings ending ending') ∨
      ∃ q q', Step respond limit p q ∧ Step respond' limit p' q' ∧ p.attempt < q.attempt ∧ q.attempt ≤ limit ∧
        c.Points q q' := by
  obtain ⟨n, rest, d, w, done⟩ := p
  obtain ⟨n', rest', d', w', done'⟩ := p'
  obtain ⟨rfl, rfl, rfl, decisions, worlds, before⟩ := halts
  rcases concludes_or_recovers limit n' reason d w with ⟨ending, ends⟩ | ⟨handler, fault, k, v, goes⟩
  · obtain ⟨ending', ends', endings⟩ := concludes decisions worlds ends
    exact .inl ⟨ending, ending', ⟨reason, rfl, ends⟩, ⟨_, rfl, ends'⟩, endings⟩
  · obtain ⟨handler', v', same, worlds', goes'⟩ := recovers decisions worlds goes
    exact .inr ⟨_, _, .recover goes, .recover goes', goes.later, goes.within,
      rfl, responds handler handler' same fault, decisions, worlds', before.tail same reason _ fault⟩

/-- Two evaluations come to an end, or they get stuck, after the same handlers were run on the same faults. -/
theorem steps_to_end (responds : c.Responds respond respond') (limit : Nat) (points : c.Points p p') :
    ∃ q q', Relation.ReflTransGen (Step respond limit) p q ∧ Relation.ReflTransGen (Step respond' limit) p' q' ∧
      c.Recoveries q.deeds q'.deeds ∧ (q.Stuck ∧ q'.Stuck ∨
        ∃ ending ending', q.EndsIn limit ending ∧ q'.EndsIn limit ending' ∧ c.Endings ending ending') := by
  -- Every handler is run as a later attempt, so the attempts that are left decrease.
  induction left : limit - p.attempt using Nat.strongRecOn generalizing p p' with
  | ind left ih =>
    obtain ⟨q, q', steps, steps', attempt, before, stuck | ⟨reason, halts⟩⟩ :=
      points.steps_to_stop respond respond' limit
    · exact ⟨q, q', steps, steps', before, .inl stuck⟩
    · rcases halts.step responds limit with ends | ⟨next, next', step, step', later, room, points⟩
      · exact ⟨q, q', steps, steps', before, .inr ends⟩
      · obtain ⟨last, last', more, more', ended⟩ := ih (limit - next.attempt) (by omega) points rfl
        exact ⟨last, last', (steps.tail step).trans more, (steps'.tail step').trans more', ended⟩

variable {routine : Routine κ ε η σ τ Option Empty} {routine' : Routine κ' ε' η' σ' τ' Option Empty}

/-- Evaluations of two routines that correspond have ends that correspond, or none. -/
theorem drive (responds : c.Responds respond respond') (bodies : c.Bodies routine routine')
    (decisions : c.decisions {} {}) (worlds : c.worlds w w') (evaluator : Evaluator) :
    Option.Rel c.Endings (evaluator.drive respond routine w) (evaluator.drive respond' routine' w') := by
  have start : c.Points (.start routine w) (.start routine' w') := ⟨rfl, bodies, decisions, worlds, .nil⟩
  obtain ⟨q, q', steps, steps', _, ⟨stuck, stuck'⟩ | ⟨ending, ending', ends, ends', endings⟩⟩ :=
    steps_to_end responds evaluator.limit start
  · rw [Evaluator.drive_eq_none_iff.mpr ⟨q, steps, stuck⟩, Evaluator.drive_eq_none_iff.mpr ⟨q', steps', stuck'⟩]
    exact .none
  · rw [Evaluator.drive_eq_some_iff.mpr ⟨q, steps, ends⟩, Evaluator.drive_eq_some_iff.mpr ⟨q', steps', ends'⟩]
    exact .some endings

variable (c) in
structure Answers {α : Type} (out : Except (DecisionError ε) α × World σ τ)
    (out' : Except (DecisionError ε') α × World σ' τ') : Prop where
  result : out'.1 = out.1.mapError (DecisionError.map c.failure)
  world : c.worlds out.2 out'.2

theorem decide (responds : c.Responds respond respond') (bodies : c.Bodies routine routine')
    (decisions : c.decisions {} {}) (worlds : c.worlds w w') (evaluator : Evaluator) :
    Option.Rel c.Answers (evaluator.decide respond routine w) (evaluator.decide respond' routine' w') := by
  rw [Evaluator.decide_eq_drive, Evaluator.decide_eq_drive]
  exact rel_map (drive responds bodies decisions worlds evaluator) fun _ _ endings => ⟨endings.result, endings.world⟩

/-- Filters by routines that correspond keep the same items, or have no end. -/
theorem filter {α : Type} {routine : α → Routine κ ε η σ τ Option Empty}
    {routine' : α → Routine κ' ε' η' σ' τ' Option Empty}
    (responds : c.Responds respond respond') (bodies : ∀ item, c.Bodies (routine item) (routine' item))
    (decisions : c.decisions {} {}) (worlds : c.worlds w w') (evaluator : Evaluator) (items : List α) :
    Option.Rel c.Answers (evaluator.filter respond routine items w) (evaluator.filter respond' routine' items w') := by
  induction items generalizing w w' with
  | nil => exact .some ⟨rfl, worlds⟩
  | cons item items ih =>
    refine rel_bind (decide responds (bodies item) decisions worlds evaluator) ?_
    rintro ⟨e | keep, v⟩ ⟨_, v'⟩ ⟨rfl, worlds⟩
    · exact .some ⟨rfl, worlds⟩
    · refine rel_bind (ih worlds) ?_
      rintro ⟨e | kept, v⟩ ⟨_, v'⟩ ⟨rfl, worlds⟩
      · exact .some ⟨rfl, worlds⟩
      · exact .some ⟨rfl, worlds⟩

end Correspondence

end Adjudication
