import Adjudication.Proofs.Evaluation.Registration
import Adjudication.Script.Basic
import Mathlib.Data.Finset.Card
import Mathlib.Data.Finset.Dedup

/-!
# Handler tables as finite maps

The two parts of a table make one map from slots, and every question that is put to the parts is a question about that
map. A table that handlers were registered in, one after the other, is the map from each slot to the last handler that
was registered for it: `registered_refines_map` says so of every answer of the table.
-/

namespace Adjudication

variable {κ ε η : Type}

/-- The last registration for a slot: none for it comes later. -/
def LastRegistered (made : List (Slot κ × η)) (slot : Slot κ) (handler : η) : Prop :=
  ∃ before after, made = before ++ (slot, handler) :: after ∧ slot ∉ after.map Prod.fst

namespace HandlerTable

variable [DecidableEq κ]

/-- Registers handlers one after the other, and says of each whether its slot had one. -/
def registerAll : List (Slot κ × η) → HandlerTable κ η → List Bool × HandlerTable κ η
  | [], t => ([], t)
  | (slot, handler) :: made, t =>
    let (replaced, t) := t.register slot handler
    let (replies, t) := registerAll made t
    (replaced :: replies, t)

/-- Two tables that answer every question alike, also the one whether a new handler replaces another. -/
structure Alike (ε : Type) [Failure ε κ] (s t : HandlerTable κ η) : Prop where
  handles : ∀ slot, s.handles slot = t.handles slot
  size : s.size = t.size
  isEmpty : s.isEmpty = t.isEmpty
  recoveryFor : ∀ fault : Fault ε, s.recoveryFor fault = t.recoveryFor fault
  replaced : ∀ slot handler, (s.register slot handler).1 = (t.register slot handler).1

/-! ### The parts and the map -/

omit [DecidableEq κ] in
theorem nodup_slots (t : HandlerTable κ η) : t.slots.Nodup := by
  have kinds : (t.raised.keys.map Slot.raised).Nodup := t.raised.distinct.map fun _ _ => Slot.raised.inj
  refine List.nodup_append.mpr ⟨kinds, by cases t.undefined <;> simp, ?_⟩
  rintro _ raised _ undefined rfl
  obtain ⟨kind, -, rfl⟩ := List.mem_map.mp raised
  cases filled : t.undefined <;> simp [filled] at undefined

theorem size_eq_card_slots (t : HandlerTable κ η) : t.size = t.slots.toFinset.card := by
  rw [size_eq_length_slots, List.toFinset_card_of_nodup t.nodup_slots]

omit [DecidableEq κ] in
theorem isEmpty_iff_size {t : HandlerTable κ η} : t.isEmpty = true ↔ t.size = 0 := beq_iff_eq

section

variable [Failure ε κ] {t : HandlerTable κ η} {fault received back : Fault ε} {handler : η}

theorem recoveryFor_eq_ok_iff :
    t.recoveryFor fault = .ok (handler, received) ↔ t.find? fault.slot = some handler ∧ received = fault := by
  rw [recoveryFor_eq]
  cases t.find? fault.slot <;> simp [eq_comm]

theorem recoveryFor_eq_error_iff :
    t.recoveryFor fault = .error back ↔ t.handles fault.slot = false ∧ back = fault := by
  rw [recoveryFor_eq, handles_eq]
  cases t.find? fault.slot <;> simp [eq_comm]

theorem recovers_iff : (∃ recovered, t.recoveryFor fault = .ok recovered) ↔ t.handles fault.slot = true := by
  rw [recoveryFor_eq, handles_eq]
  cases t.find? fault.slot <;> simp

/-- Tables that are the same map are alike, whatever order their handlers came in. -/
theorem alike_of_find? {s : HandlerTable κ η} (same : ∀ slot, s.find? slot = t.find? slot) : Alike ε s t := by
  have handles : ∀ slot, s.handles slot = t.handles slot := by
    intro slot
    rw [handles_eq, handles_eq, same]
  have size : s.size = t.size := by
    rw [size_eq_card_slots, size_eq_card_slots]
    congr 1
    ext slot
    rw [List.mem_toFinset, List.mem_toFinset, ← handles_iff_mem, ← handles_iff_mem, handles]
  refine ⟨handles, size, ?_, fun fault => ?_, fun slot handler => ?_⟩
  · rw [Bool.eq_iff_iff, isEmpty_iff_size, isEmpty_iff_size, size]
  · rw [recoveryFor_eq, recoveryFor_eq, same]
  · rw [register_replaced, register_replaced, handles]

end

/-! ### Registering in turn -/

theorem registerAll_append (made more : List (Slot κ × η)) (t : HandlerTable κ η) :
    registerAll (made ++ more) t =
      ((registerAll made t).1 ++ (registerAll more (registerAll made t).2).1,
        (registerAll more (registerAll made t).2).2) := by
  induction made generalizing t with
  | nil => rfl
  | cons first made ih => simp [registerAll, ih]

theorem length_replies (made : List (Slot κ × η)) (t : HandlerTable κ η) :
    (registerAll made t).1.length = made.length := by
  induction made generalizing t with
  | nil => rfl
  | cons first made ih => simp [registerAll, ih]

theorem registerAll_empty (made : List (Slot κ × η)) : (registerAll made empty).2 = ofRegistrations made := by
  induction made using List.reverseRecOn with
  | nil => rfl
  | append_singleton made last ih =>
    rw [registerAll_append, ih, ofRegistrations_append_singleton]
    rfl

/-- The reply to a registration in a row of them. -/
theorem getElem?_replies (before after : List (Slot κ × η)) (slot : Slot κ) (handler : η) :
    (registerAll (before ++ (slot, handler) :: after) empty).1[before.length]? =
      some ((ofRegistrations before).handles slot) := by
  rw [registerAll_append, registerAll_empty, List.getElem?_append_right (Nat.le_of_eq (length_replies _ _)),
    length_replies, Nat.sub_self, registerAll]
  exact congrArg some (register_replaced _ slot handler)

/-! ### The last registrations -/

theorem find?_eq_some_iff {made : List (Slot κ × η)} {slot : Slot κ} {handler : η} :
    (ofRegistrations made).find? slot = some handler ↔ LastRegistered made slot handler := by
  rw [find?_ofRegistrations, List.lookup_eq_some_iff]
  -- The first entry of the reversed row is the last one of the row.
  constructor
  · rintro ⟨later, earlier, reversed, others⟩
    refine ⟨earlier.reverse, later.reverse, by simpa using congrArg List.reverse reversed, fun member => ?_⟩
    obtain ⟨entry, inside, rfl⟩ := List.mem_map.mp member
    simpa using others entry (List.mem_reverse.mp inside)
  · rintro ⟨before, after, rfl, unregistered⟩
    refine ⟨after.reverse, before.reverse, by simp, fun entry inside => bne_iff_ne.mpr ?_⟩
    rintro rfl
    exact unregistered (List.mem_map.mpr ⟨entry, List.mem_reverse.mp inside, rfl⟩)

theorem handles_ofRegistrations {made : List (Slot κ × η)} {slot : Slot κ} :
    (ofRegistrations made).handles slot = true ↔ slot ∈ made.map Prod.fst := by
  rw [handles_eq, find?_ofRegistrations, List.lookup_isSome_iff]
  simp

theorem size_ofRegistrations (made : List (Slot κ × η)) :
    (ofRegistrations made).size = (made.map Prod.fst).toFinset.card := by
  rw [size_eq_card_slots]
  congr 1
  ext slot
  rw [List.mem_toFinset, List.mem_toFinset, ← handles_iff_mem, handles_ofRegistrations]

theorem isEmpty_ofRegistrations {made : List (Slot κ × η)} : (ofRegistrations made).isEmpty = true ↔ made = [] := by
  rw [isEmpty_iff_size, size_ofRegistrations, Finset.card_eq_zero, List.toFinset_eq_empty_iff, List.map_eq_nil_iff]

/-- Handlers that are registered in turn, in a table that was empty, make the map from each slot to the last of its
handlers. A registration replaces a handler if the slot had one before; the slots that are handled are those that were
registered for, and the size is the number of them. A fault is recovered from if its slot is handled, by the last
handler of the slot on that very fault, and handed back if not. Rows with the same last handlers make tables that are
alike. -/
theorem registered_refines_map [Failure ε κ] (made : List (Slot κ × η)) :
    let (replies, t) := registerAll made empty
    (replies.length = made.length ∧
      ∀ before slot handler after, made = before ++ (slot, handler) :: after →
        ∃ replaced, replies[before.length]? = some replaced ∧ (replaced = true ↔ slot ∈ before.map Prod.fst)) ∧
    (∀ slot, t.handles slot = true ↔ slot ∈ made.map Prod.fst) ∧
    t.size = (made.map Prod.fst).toFinset.card ∧
    (t.isEmpty = true ↔ made = []) ∧
    (∀ fault : Fault ε,
      ((∃ recovered, t.recoveryFor fault = .ok recovered) ↔ t.handles fault.slot = true) ∧
      (∀ handler received, t.recoveryFor fault = .ok (handler, received) ↔
        LastRegistered made fault.slot handler ∧ received = fault) ∧
      ∀ back, t.recoveryFor fault = .error back ↔ t.handles fault.slot = false ∧ back = fault) ∧
    ∀ made', (∀ slot handler, LastRegistered made' slot handler ↔ LastRegistered made slot handler) →
      Alike ε (registerAll made' empty).2 t := by
  have replied := length_replies made empty
  have left := registerAll_empty made
  refine ⟨⟨replied, ?_⟩, ?_⟩
  · rintro before slot handler after rfl
    exact ⟨_, getElem?_replies before after slot handler, handles_ofRegistrations⟩
  · rw [left]
    refine ⟨fun slot => handles_ofRegistrations, size_ofRegistrations made, isEmpty_ofRegistrations, fun fault => ?_,
      fun made' same => ?_⟩
    · refine ⟨recovers_iff, fun handler received => ?_, fun back => recoveryFor_eq_error_iff⟩
      rw [recoveryFor_eq_ok_iff, find?_eq_some_iff]
    · rw [registerAll_empty]
      refine alike_of_find? fun slot => Option.ext fun handler => ?_
      rw [find?_eq_some_iff, find?_eq_some_iff, same]

/-- A handler that is replaced leaves nothing behind: a row without it makes a table that is alike. -/
theorem registered_refines_map_replaced :
    let row : List (Slot String × Nat) := [(.undefined, 2), (.raised "net", 3)]
    let (replies, t) := registerAll ((.raised "net", 1) :: row) empty
    let failure : Fault Script.Mishap := .raised ⟨"net", 7⟩
    replies[2]? = some true ∧ t.size = 2 ∧ t.recoveryFor failure = .ok (3, failure) ∧
      Alike Script.Mishap (registerAll row empty).2 t := by
  intro row
  obtain ⟨⟨-, replied⟩, -, size, -, recovered, alike⟩ :=
    @registered_refines_map _ Script.Mishap _ _ _ ((.raised "net", 1) :: row)
  have same : ∀ slot handler,
      LastRegistered row slot handler ↔ LastRegistered ((.raised "net", 1) :: row) slot handler := by
    intro slot handler
    rw [← find?_eq_some_iff, ← find?_eq_some_iff, find?_ofRegistrations, find?_ofRegistrations]
    by_cases net : slot = .raised "net"
    · simp [row, net]
    · have other : (slot == .raised "net") = false := by simpa using net
      simp [row, List.lookup_cons, other]
  obtain ⟨replaced, reply, again⟩ := replied [(.raised "net", 1), (.undefined, 2)] (.raised "net") 3 [] rfl
  rw [again.mpr (by decide)] at reply
  have last : LastRegistered ((.raised "net", 1) :: row) (.raised "net") 3 :=
    ⟨[(.raised "net", 1), (.undefined, 2)], [], rfl, List.not_mem_nil⟩
  exact ⟨reply, size.trans (by decide), ((recovered (.raised ⟨"net", 7⟩)).2.1 3 _).mpr ⟨last, rfl⟩, alike row same⟩

end HandlerTable

end Adjudication
