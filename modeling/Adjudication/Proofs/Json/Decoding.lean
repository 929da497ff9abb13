import Adjudication.Proofs.Json.Reading
import Mathlib.Data.List.Forall2

/-!
# Decoding values

What the decoders make of the trees of values: for each of them, from which values it gives which result. A record takes
its members one by one; those that it does not know are passed over, whatever they hold.
-/

namespace Adjudication.Json

theorem bind_eq_ok_iff {ε α β : Type} {x : Except ε α} {f : α → Except ε β} {b : β} :
    (x >>= f) = .ok b ↔ ∃ a, x = .ok a ∧ f a = .ok b := by
  cases x with
  | error e => exact ⟨nofun, nofun⟩
  | ok a => exact ⟨fun same => ⟨a, rfl, same⟩, by rintro ⟨_, ⟨⟩, same⟩; exact same⟩

theorem unexpected_ne_ok {α : Type} {wanted : String} {tree : Tree} {a : α} : unexpected wanted tree ≠ .ok a := by
  rw [unexpected]
  split <;> exact nofun

namespace Data

/-- A value that stands for the variant of a name: the name, or an object with null for it. -/
def Names (v : Data) (name : String) : Prop := v = .string name ∨ v = .object [(name, .null)]

/-- All values that the members of an object have for a key, in order. -/
def valuesOf (key : String) (members : List (String × Data)) : List Data :=
  (members.filter fun m => m.1 = key).map Prod.snd

theorem valuesOf_cons (key other : String) (v : Data) (members : List (String × Data)) :
    valuesOf key ((other, v) :: members) = if other = key then v :: valuesOf key members else valuesOf key members := by
  by_cases same : other = key <;> simp [valuesOf, same]

theorem isWhole_tree (v : Data) : v.tree.isWhole := by
  induction v with
  | null | boolean | number | string => rfl
  | array items ih =>
    rw [tree, Tree.isWhole]
    induction items with
    | nil => rfl
    | cons item items rest =>
      obtain ⟨first, each⟩ := List.forall_mem_cons.mp ih
      simp [itemTrees, Items.isWhole, first, rest each]
  | object members ih =>
    rw [tree, Tree.isWhole]
    induction members with
    | nil => rfl
    | cons member members rest =>
      obtain ⟨first, each⟩ := List.forall_mem_cons.mp ih
      simp [memberTrees, Members.isWhole, first, rest each]

end Data

namespace Decoder

variable {v : Data}

theorem string_eq_ok_iff {text : String} : string v.tree = .ok text ↔ v = .string text := by
  cases v with
  | string => simp [Data.tree, string]
  | _ => simp [Data.tree, string, unexpected_ne_ok]

theorem boolean_eq_ok_iff {value : Bool} : boolean v.tree = .ok value ↔ v = .boolean value := by
  cases v with
  | boolean => simp [Data.tree, boolean]
  | _ => simp [Data.tree, boolean, unexpected_ne_ok]

theorem unit_eq_ok_iff {u : Unit} : unit v.tree = .ok u ↔ v = .null := by
  cases v with
  | null => simp [Data.tree, unit]
  | _ => simp [Data.tree, unit, unexpected_ne_ok]

theorem items_eq_ok_iff {α : Type} {item : Decoder α} {vs : List Data} {as : List α} :
    items item (itemTrees vs) = .ok as ↔ List.Forall₂ (fun v a => item v.tree = .ok a) vs as := by
  induction vs generalizing as with
  | nil => cases as <;> simp [itemTrees, items]
  | cons v vs ih =>
    rw [itemTrees, items]
    simp only [bind_eq_ok_iff, ih]
    constructor
    · rintro ⟨a, first, as, rest, ⟨⟩⟩
      exact .cons first rest
    · rintro ⟨⟩
      rename_i a as first rest
      exact ⟨a, first, as, rest, rfl⟩

theorem list_eq_ok_iff {α : Type} {item : Decoder α} {as : List α} :
    list item v.tree = .ok as ↔ ∃ vs, v = .array vs ∧ List.Forall₂ (fun v a => item v.tree = .ok a) vs as := by
  cases v with
  | array => simp [Data.tree, list, items_eq_ok_iff]
  | _ => simp [Data.tree, list, unexpected_ne_ok]

theorem variant_eq_ok_iff {α : Type} {variants : List (String × α)} {name : String} {a : α} :
    variant variants name = .ok a ↔ variants.lookup name = some a := by
  cases found : variants.lookup name <;> simp [variant, found, mismatch]

theorem enum_eq_ok_iff {α : Type} {variants : List (String × α)} {a : α} :
    enum variants v.tree = .ok a ↔ ∃ name, variants.lookup name = some a ∧ v.Names name := by
  cases v with
  | string name => simp [Data.tree, enum, variant_eq_ok_iff, Data.Names]
  | object members =>
    cases members with
    | nil => simp [Data.tree, memberTrees, enum, Data.Names]
    | cons member rest =>
      obtain ⟨name, v⟩ := member
      simp only [Data.tree, memberTrees, enum, bind_eq_ok_iff, variant_eq_ok_iff, unit_eq_ok_iff]
      constructor
      · rintro ⟨b, found, -, rfl, closed⟩
        cases rest with
        | nil =>
          cases closed
          exact ⟨name, found, .inr rfl⟩
        | cons member rest => cases closed
      · rintro ⟨_, found, named | named⟩
        · cases named
        · cases named
          exact ⟨a, found, (), rfl, rfl⟩
  | _ => simp [Data.tree, enum, Data.Names]

/-- Where every variant is listed under its own name, just the values for this name are read as it. -/
theorem enum_eq_ok_iff_names {α : Type} {variants : List (String × α)} {name : α → String}
    (own : ∀ p ∈ variants, p.1 = name p.2) (listed : ∀ a, variants.lookup (name a) = some a) {a : α} :
    enum variants v.tree = .ok a ↔ v.Names (name a) := by
  rw [enum_eq_ok_iff]
  constructor
  · rintro ⟨other, found, names⟩
    obtain ⟨before, later, rfl, -⟩ := List.lookup_eq_some_iff.mp found
    rw [← own (other, a) (by simp)]
    exact names
  · exact fun names => ⟨name a, listed a, names⟩

end Decoder

/-! ### Records -/

namespace Record

variable {δ α : Type} {record : Record δ α} {key : String} {rest : Members} {known after : δ}

/-- A member that a field has the name of is read for this field, which must not be known yet. -/
theorem readMembers_known {β : Type} {name : String} {required : Bool} {decoder : Decoder β}
    {reads : Data → β → Prop} (get : δ → Option β) (set : δ → β → δ)
    (found : record.fields.find? (·.name == key) =
      some ⟨name, required, fun known => (get known).isSome, fun tree known => do pure (set known (← decoder tree))⟩)
    (decodes : ∀ {v b}, decoder v.tree = .ok b ↔ reads v b) {v : Data} :
    record.readMembers (.member (some key) v.tree rest) known = .ok after ↔
      get known = none ∧ ∃ b, reads v b ∧ record.readMembers rest (set known b) = .ok after := by
  rw [readMembers, found]
  cases again : get known with
  | some b => simp [again, mismatch]
  | none =>
    simp only [again, Option.isSome_none, Bool.false_eq_true, if_false, bind_eq_ok_iff, decodes]
    constructor
    · rintro ⟨_, ⟨b, read, ⟨⟩⟩, rest⟩
      exact ⟨trivial, b, read, rest⟩
    · rintro ⟨-, b, read, rest⟩
      exact ⟨_, ⟨b, read, rfl⟩, rest⟩

/-- A member that no field has the name of is passed over. -/
theorem readMembers_unknown (unknown : record.fields.find? (·.name == key) = none) (v : Data) :
    record.readMembers (.member (some key) v.tree rest) known = record.readMembers rest known := by
  rw [readMembers, unknown]
  exact if_pos v.isWhole_tree

end Record

/-- What becomes of a field by the values that are given for it: it may be given one, unless it is known already. -/
inductive Filled {α : Type} (reads : Data → α → Prop) : Option α → List Data → Option α → Prop where
  | kept (known : Option α) : Filled reads known [] known
  | given {v a} (read : reads v a) : Filled reads none [v] (some a)

namespace Filled

variable {α : Type} {reads : Data → α → Prop} {known after : Option α} {v : Data} {values : List Data}

theorem nil_iff : Filled reads known [] after ↔ after = known :=
  ⟨by rintro ⟨⟩; rfl, by rintro rfl; exact .kept _⟩

theorem cons_iff : Filled reads known (v :: values) after ↔
    known = none ∧ ∃ a, reads v a ∧ Filled reads (some a) values after := by
  constructor
  · rintro ⟨⟩
    rename_i read
    exact ⟨rfl, _, read, .kept _⟩
  · rintro ⟨rfl, a, read, ⟨⟩⟩
    exact .given read

/-- A field that must be given is given once. -/
theorem some_iff (reads : Data → α → Prop) {a : α} : Filled reads none values (some a) ↔ ∃ v, values = [v] ∧ reads v a := by
  constructor
  · rintro ⟨⟩
    exact ⟨_, rfl, ‹_›⟩
  · rintro ⟨v, rfl, read⟩
    exact .given read

/-- A field with a default value is given once or has this value. -/
theorem getD_iff (reads : Data → α → Prop) {a default : α} : (∃ after, Filled reads none values after ∧ after.getD default = a) ↔
    values = [] ∧ a = default ∨ ∃ v, values = [v] ∧ reads v a := by
  constructor
  · rintro ⟨after, ⟨⟩, rfl⟩
    · exact .inl ⟨rfl, rfl⟩
    · exact .inr ⟨_, rfl, ‹_›⟩
  · rintro (⟨rfl, rfl⟩ | ⟨v, rfl, read⟩)
    · exact ⟨none, .kept _, rfl⟩
    · exact ⟨some a, .given read, rfl⟩

end Filled

end Adjudication.Json
