import Adjudication.Proofs.Declaration.Grammar
import Adjudication.Proofs.Json.Writing
import Mathlib

/-!
# Declarations written and read again

The value that is written of a declaration stands for it, and both forms of a value are texts of it. So reading gives
back what was written.
-/

namespace Adjudication

open Json

theorem Modifier.lists_data (modifiers : List Modifier) :
    (Value.array (modifiers.map fun m => .string m.name)).data.Lists modifiers := by
  refine ⟨_, rfl, ?_⟩
  rw [Value.itemsData_eq, List.map_map, List.forall₂_map_left_iff, List.forall₂_same]
  exact fun m _ => .inl rfl

namespace Declaration

/-- The value that is written of a declaration stands for it; no modifiers are written as no member. -/
theorem declares_toJson (d : Declaration) : d.toJson.data.Declares d := by
  have modifiers : d.modifiers = [] ∨ d.modifiers.isEmpty = false := by
    cases d.modifiers with
    | nil => exact .inl rfl
    | cons => exact .inr rfl
  rw [toJson, Value.data, Value.membersData_eq]
  refine .object ?_
  rcases modifiers with none | some
  · simp only [none, List.isEmpty_nil, if_true, List.append_nil]
    exact ⟨rfl, ⟨_, rfl, .inl rfl⟩, .inl ⟨rfl, none⟩, .inr rfl⟩
  · simp only [some, Bool.false_eq_true, if_false]
    exact ⟨rfl, ⟨_, rfl, .inl rfl⟩, .inr ⟨_, rfl, Modifier.lists_data d.modifiers⟩, .inr rfl⟩

theorem ofText_write (form : Form) (d : Declaration) : ofText (d.toJson.write form) = .ok d :=
  (ofText_eq_ok_iff (d.toJson.writtenAs_write form)).mpr d.declares_toJson

/-- In any text of what is written of a list of declarations, this list is read. -/
theorem listOfText_listToJson {ds : List Declaration} {text : String}
    (written : (listToJson ds).data.WrittenAs text) : listOfText text = .ok ds := by
  refine (listOfText_eq_ok_iff written).mpr ⟨_, rfl, ?_⟩
  rw [Value.itemsData_eq, List.map_map, List.forall₂_map_left_iff, List.forall₂_same]
  exact fun d _ => d.declares_toJson

theorem listOfText_write (form : Form) (ds : List Declaration) : listOfText ((listToJson ds).write form) = .ok ds :=
  listOfText_listToJson ((listToJson ds).writtenAs_write form)

end Declaration

/-- In either form, what is written of declarations is JSON that stands for them, and reading gives them back. So no
two of them are written alike; and a declaration that was read, from whatever text, is written and read again without a
change. -/
theorem declarations_round_trip (form : Form) :
    (∀ d : Declaration, ∃ v : Data, v.WrittenAs (d.toJson.write form) ∧ v.Declares d) ∧
    (∀ ds, Declaration.listOfText ((Declaration.listToJson ds).write form) = .ok ds) ∧
    (∀ d : Declaration, Declaration.ofText (d.toJson.write form) = .ok d) ∧
    (Function.Injective fun ds => (Declaration.listToJson ds).write form) ∧
    (Function.Injective fun d : Declaration => d.toJson.write form) ∧
    ∀ text d, Declaration.ofText text = .ok d →
      (Declaration.ofText (d.toJson.write form)).map (fun again => (again, again.toJson.write form)) =
        .ok (d, d.toJson.write form) := by
  refine ⟨fun d => ⟨d.toJson.data, d.toJson.writtenAs_write form, d.declares_toJson⟩,
    Declaration.listOfText_write form, Declaration.ofText_write form, fun ds ds' same => ?_, fun d d' same => ?_,
    fun text d _ => ?_⟩
  · have read := Declaration.listOfText_write form ds
    rw [show (Declaration.listToJson ds).write form = (Declaration.listToJson ds').write form from same,
      Declaration.listOfText_write form ds'] at read
    exact (Except.ok.inj read).symm
  · have read := Declaration.ofText_write form d
    rw [show d.toJson.write form = d'.toJson.write form from same, Declaration.ofText_write form d'] at read
    exact (Except.ok.inj read).symm
  · rw [Declaration.ofText_write form d]
    rfl

/-- An array with an escape for a letter and a repeated modifier is written as an object, with the letter itself. -/
theorem declarations_round_trip_repeated :
    let text := "[\"\\u00e9\\n\", \"class\", [\"data\", \"data\"]]"
    let d : Declaration := ⟨"é\n", .plainClass, [.data, .data], true⟩
    let written := "\x7b\"name\":\"é\\n\",\"kind\":\"class\",\"modifiers\":[\"data\",\"data\"]," ++
      "\"has_primary_constructor\":true\x7d"
    Declaration.ofText text = .ok d ∧
      (Declaration.ofText written).map (fun again => (again, again.toJson.write .compact)) = .ok (d, written) := by
  intro text d written
  have read : Declaration.ofText text = .ok d := by cbv
  have same : d.toJson.write .compact = written := by cbv
  exact ⟨read, same ▸ (declarations_round_trip .compact).2.2.2.2.2 text d read⟩

end Adjudication
