import Adjudication.Proofs.Evaluation.BigStep
import Adjudication.Proofs.Evaluation.Course
import Mathlib.Data.List.Dedup
import Mathlib.Data.List.Induction

/-!
# What registrations decide

The handler table is at every point of an evaluation what the registrations before that point make of it, whichever
body they were made in and however that body ended. `registrations_decide` says so, and that they alone decide where a
fault goes.
-/

namespace Adjudication

variable {κ ε η σ τ : Type}

/-! ### Registrations -/

def Slot.kind? : Slot κ → Option κ
  | .undefined => none
  | .raised k => some k

def Deed.registration? : Deed κ ε η → Option (Slot κ × η)
  | .registered slot handler => some (slot, handler)
  | _ => none

/-- The registrations among what was done, in order. -/
def registrations (deeds : List (Deed κ ε η)) : List (Slot κ × η) := deeds.filterMap Deed.registration?

def registeredKinds (deeds : List (Deed κ ε η)) : List κ := (registrations deeds).filterMap fun r => r.1.kind?

theorem registrations_append (deeds more : List (Deed κ ε η)) :
    registrations (deeds ++ more) = registrations deeds ++ registrations more :=
  List.filterMap_append

theorem mem_registrations {deeds : List (Deed κ ε η)} {slot : Slot κ} {handler : η} :
    (slot, handler) ∈ registrations deeds ↔ .registered slot handler ∈ deeds := by
  refine List.mem_filterMap.trans ⟨?_, fun done => ⟨_, done, rfl⟩⟩
  rintro ⟨deed, done, same⟩
  cases deed with
  | registered => cases same; exact done
  | staged | stopped | recovered => cases same

theorem mem_registeredKinds {deeds : List (Deed κ ε η)} {k : κ} :
    k ∈ registeredKinds deeds ↔ ∃ handler, .registered (.raised k) handler ∈ deeds := by
  refine List.mem_filterMap.trans ⟨?_, fun ⟨handler, done⟩ => ⟨_, mem_registrations.mpr done, rfl⟩⟩
  rintro ⟨⟨slot, handler⟩, done, same⟩
  cases slot with
  | undefined => cases same
  | raised => cases same; exact ⟨handler, mem_registrations.mp done⟩

variable [DecidableEq κ]

/-- The handler of the most recent registration for a slot. -/
def latest (slot : Slot κ) (deeds : List (Deed κ ε η)) : Option η := (registrations deeds).reverse.lookup slot

theorem latest_isSome_iff {slot : Slot κ} {deeds : List (Deed κ ε η)} :
    (latest slot deeds).isSome = true ↔ ∃ handler, .registered slot handler ∈ deeds := by
  simp [latest, List.lookup_isSome_iff, mem_registrations]

/-! ### Tables -/

namespace HandlerTable

/-- The table that registrations make, one after the other. -/
def ofRegistrations (made : List (Slot κ × η)) : HandlerTable κ η :=
  made.foldl (fun t r => t.insert r.1 r.2) .empty

theorem ofRegistrations_append_singleton (made : List (Slot κ × η)) (slot : Slot κ) (handler : η) :
    ofRegistrations (made ++ [(slot, handler)]) = (ofRegistrations made).insert slot handler := by
  simp [ofRegistrations]

theorem find?_ofRegistrations (made : List (Slot κ × η)) (slot : Slot κ) :
    (ofRegistrations made).find? slot = made.reverse.lookup slot := by
  induction made using List.reverseRecOn with
  | nil => exact find?_empty slot
  | append_singleton made last ih =>
    obtain ⟨other, handler⟩ := last
    rw [ofRegistrations_append_singleton, find?_insert, List.reverse_concat, List.lookup_cons, ih]
    by_cases same : slot = other
    · simp [same]
    · have different : (slot == other) = false := by simpa using same
      simp [same, different]

theorem size_eq_of_kinds {t : HandlerTable κ η} {kinds : List κ}
    (handled : ∀ k, k ∈ kinds ↔ t.handles (.raised k) = true) :
    t.size = kinds.dedup.length + if t.handles .undefined then 1 else 0 := by
  have same : t.raised.keys.Perm kinds.dedup := by
    refine (List.perm_ext_iff_of_nodup t.raised.distinct kinds.nodup_dedup).mpr fun k => ?_
    rw [List.mem_dedup, handled, handles, FiniteMap.contains_iff_mem]
    rfl
  have counted : t.raised.size = kinds.dedup.length := (List.length_map _).symm.trans same.length_eq
  rw [size, counted, handles]
  cases t.undefined <;> rfl

variable {t : HandlerTable κ η} {deeds : List (Deed κ ε η)} (made : t = ofRegistrations (registrations deeds))
include made

theorem find?_eq_latest (slot : Slot κ) : t.find? slot = latest slot deeds := by
  rw [made, find?_ofRegistrations, latest]

theorem handles_iff (slot : Slot κ) : t.handles slot = true ↔ ∃ handler, .registered slot handler ∈ deeds := by
  rw [handles_eq, find?_eq_latest made, latest_isSome_iff]

theorem find?_eq_none_iff (slot : Slot κ) : t.find? slot = none ↔ ∀ handler, .registered slot handler ∉ deeds := by
  rw [← not_exists, ← handles_iff made, handles_eq]
  simp

theorem eq_of_unregistered {more : List (Deed κ ε η)} (none : registrations more = []) :
    t = ofRegistrations (registrations (deeds ++ more)) := by
  rw [registrations_append, none, List.append_nil]
  exact made

theorem size_eq : t.size = (registeredKinds deeds).dedup.length + if t.handles .undefined then 1 else 0 :=
  size_eq_of_kinds fun k => mem_registeredKinds.trans (handles_iff made (.raised k)).symm

end HandlerTable

/-! ### Evaluations -/

variable [Recorder κ τ] {d d' : Decision κ η} {w w' : World σ τ}

theorem Operation.handlers_eq {β : Type} {operation : Operation κ η σ τ Option β} {n : Nat} {given : β}
    (returned : operation.run n d w = some (given, d', w')) {deeds : List (Deed κ ε η)}
    (table : d.handlers = .ofRegistrations (registrations deeds)) :
    d'.handlers = .ofRegistrations (registrations (deeds ++ operation.deeds)) := by
  cases operation with
  | attempts | verdict | handlers | stage =>
    cases returned
    exact HandlerTable.eq_of_unregistered table rfl
  | register slot handler =>
    cases returned
    rw [registrations_append]
    exact (congrArg (·.insert slot handler) table).trans (HandlerTable.ofRegistrations_append_singleton _ _ _).symm
  | act f =>
    obtain ⟨entries, s, _, rfl, rfl⟩ := Operation.run_act_eq_some_iff.mp returned
    exact HandlerTable.eq_of_unregistered table rfl

variable [Failure ε κ] {respond : η → Fault ε → Routine κ ε η σ τ Option Empty} {evaluator : Evaluator}
  {routine : Routine κ ε η σ τ Option Empty} {limit : Nat} {p q : Point κ ε η σ τ} {ending : Ending κ ε η σ τ}

theorem Step.handlers_eq (step : Step respond limit p q)
    (table : p.decision.handlers = .ofRegistrations (registrations p.deeds)) :
    q.decision.handlers = .ofRegistrations (registrations q.deeds) := by
  cases step with
  | call returned => exact Operation.handlers_eq returned table
  | recover => exact HandlerTable.eq_of_unregistered table rfl

/-- At every point the table is what the registrations before it make. -/
theorem Evaluator.Reaches.handlers_eq (reached : evaluator.Reaches respond routine w p) :
    p.decision.handlers = .ofRegistrations (registrations p.deeds) := by
  induction reached with
  | refl => rfl
  | tail _ step ih => exact step.handlers_eq ih

namespace Point

variable (table : p.decision.handlers = .ofRegistrations (registrations p.deeds))
include table

theorem hands_latest {fault : Fault ε} {handler : η} (failed : p.rest = .stop (.failed fault))
    (found : latest fault.slot p.deeds = some handler) :
    (p.attempt < limit → p.HandsTo limit handler fault (p.attempt + 1)) ∧
      (limit ≤ p.attempt → p.EndsIn limit (.ceiling limit p.attempt p.decision p.world)) := by
  rw [← HandlerTable.find?_eq_latest table] at found
  exact ⟨fun room => ⟨_, _, failed, .intro .failed found room, rfl⟩,
    fun full => ⟨_, failed, .exhausted .failed found full⟩⟩

theorem EndsIn.raised_iff (ends : p.EndsIn limit ending) (failure : ε) :
    ending.result = .error (.raised failure) ↔
      p.rest = .stop (.failed (.raised failure)) ∧
        ∀ handler, .registered (.raised (Failure.kind failure)) handler ∉ p.deeds := by
  obtain ⟨reason, stopped, concludes⟩ := ends
  rw [← HandlerTable.find?_eq_none_iff table]
  constructor
  · intro raised
    obtain ⟨pends, absent⟩ := concludes.pends (show ending.result = .error (.ofFault (.raised failure)) from raised)
    exact ⟨pends.reason_of_raised ▸ stopped, absent⟩
  · rintro ⟨failed, absent⟩
    cases stopped.symm.trans failed
    have unhandled : Concludes limit p.attempt p.decision p.world (.failed (.raised failure)) _ :=
      .unhandled .failed absent
    cases concludes.unique unhandled
    rfl

theorem EndsIn.unregistered_of_undefined (ends : p.EndsIn limit ending) (undefined : ending.result = .error .undefined)
    (handler : η) : .registered .undefined handler ∉ p.deeds := by
  obtain ⟨_, _, concludes⟩ := ends
  obtain ⟨_, absent⟩ := concludes.pends (show ending.result = .error (.ofFault .undefined) from undefined)
  exact (HandlerTable.find?_eq_none_iff table .undefined).mp absent handler

end Point

/-- At every point of an evaluation the table has for each slot the handler that was registered for it last, and no
handler for a slot that none was registered for. A body that fails is followed by the handler that was last registered
for just that fault's slot, unless the ceiling is reached; an evaluation ends in a failure just if its last body raised
it and no handler was ever registered for its kind, and undefined only if none was registered for that. -/
theorem registrations_decide (evaluator : Evaluator) (respond : η → Fault ε → Routine κ ε η σ τ Option Empty)
    (routine : Routine κ ε η σ τ Option Empty) (w : World σ τ) :
    (∀ p, evaluator.Reaches respond routine w p →
      (∀ slot, p.decision.handlers.find? slot = latest slot p.deeds ∧
        (p.decision.handlers.handles slot = true ↔ ∃ handler, .registered slot handler ∈ p.deeds)) ∧
      p.decision.handlers.size =
        (registeredKinds p.deeds).dedup.length + (if p.decision.handlers.handles .undefined then 1 else 0) ∧
      ∀ fault handler, p.rest = .stop (.failed fault) → latest fault.slot p.deeds = some handler →
        (p.attempt < evaluator.limit → p.HandsTo evaluator.limit handler fault (p.attempt + 1)) ∧
        (p.attempt = evaluator.limit →
          p.EndsIn evaluator.limit (.ceiling evaluator.limit p.attempt p.decision p.world))) ∧
    ∀ ending, evaluator.drive respond routine w = some ending →
      ∃ last, evaluator.Reaches respond routine w last ∧ last.EndsIn evaluator.limit ending ∧
        (∀ failure, ending.result = .error (.raised failure) ↔
          last.rest = .stop (.failed (.raised failure)) ∧
            ∀ handler, .registered (.raised (Failure.kind failure)) handler ∉ last.deeds) ∧
        (ending.result = .error .undefined → ∀ handler, .registered .undefined handler ∉ last.deeds) := by
  refine ⟨fun p reached => ?_, fun ending ended => ?_⟩
  · have table := reached.handlers_eq
    refine ⟨fun slot => ⟨HandlerTable.find?_eq_latest table slot, HandlerTable.handles_iff table slot⟩,
      HandlerTable.size_eq table, fun fault handler failed found => ?_⟩
    obtain ⟨hands, exhausted⟩ := Point.hands_latest table failed found
    exact ⟨hands, fun full => exhausted (Nat.le_of_eq full.symm)⟩
  · obtain ⟨last, reached, ends⟩ := Evaluator.drive_eq_some_iff.mp ended
    have table := reached.handlers_eq
    exact ⟨last, reached, ends, Point.EndsIn.raised_iff table ends, Point.EndsIn.unregistered_of_undefined table ends⟩

/-- A handler that is registered in a part that fails, and is swallowed, takes the place of the one before it. -/
theorem registrations_decide_swallowed :
    let evaluator : Evaluator := ⟨⟨3⟩, by decide⟩
    let respond : Bool → Fault Script.Mishap → Routine String Script.Mishap Bool Script.Vars Script.Entry Option Empty :=
      fun _ _ => Routine.raise ⟨"disk", 1⟩
    let failing : Routine String Script.Mishap Bool Script.Vars Script.Entry Option Empty :=
      Routine.onErr "net" true >>= fun _ => Routine.raise ⟨"io", 2⟩
    let routine := Routine.onErr "net" false >>= fun _ => failing.observe >>= fun _ => Routine.raise ⟨"net", 7⟩
    let start : Script.World := ⟨{}, []⟩
    (∃ p, evaluator.Reaches respond routine start p ∧ p.decision.handlers.find? (.raised "net") = some true ∧
      p.decision.handlers.size = 1 ∧ p.HandsTo evaluator.limit true (.raised ⟨"net", 7⟩) 2) ∧
    ∃ last, evaluator.Reaches respond routine start last ∧ last.rest = .stop (.failed (.raised ⟨"disk", 1⟩)) ∧
      ∀ handler, .registered (.raised "disk") handler ∉ last.deeds := by
  intro evaluator respond failing routine start
  obtain ⟨held, ends⟩ := registrations_decide evaluator respond routine start
  constructor
  · obtain ⟨p, reached, first, stopped, last, kinds, undefined⟩ : ∃ p, evaluator.Reaches respond routine start p ∧
        p.attempt = 1 ∧ p.rest = .stop (.failed (.raised ⟨"net", 7⟩)) ∧ latest (.raised "net") p.deeds = some true ∧
        registeredKinds p.deeds = ["net", "net"] ∧ p.decision.handlers.handles .undefined = false :=
      ⟨_, .tail (.single (.call rfl)) (.call rfl), rfl, rfl, rfl, rfl, rfl⟩
    obtain ⟨table, size, next⟩ := held p reached
    refine ⟨p, reached, (table _).1.trans last, ?_, ?_⟩
    · rw [size, kinds, undefined]
      rfl
    · have hands := (next (.raised ⟨"net", 7⟩) true stopped last).1
      rw [first] at hands
      exact hands (by decide)
  · obtain ⟨ending, evaluates, raised⟩ : ∃ ending : Ending String Script.Mishap Bool Script.Vars Script.Entry,
        Evaluates respond evaluator.limit routine 1 {} start ending ∧
        ending.result = .error (.raised ⟨"disk", 1⟩) :=
      ⟨_, .next rfl (.intro .failed rfl (by decide)) (.last rfl (.unhandled .failed rfl)), rfl⟩
    obtain ⟨last, reached, _, only_if, _⟩ := ends ending evaluates.complete_eq
    exact ⟨last, reached, (only_if _).mp raised⟩

end Adjudication
