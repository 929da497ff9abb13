import Adjudication.Declaration.Codec
import Adjudication.Proofs.Json.Decoding
import Mathlib.Tactic.MkIffOfInductiveProp

/-!
# Declarations as JSON

Which values are a declaration, and of which declaration: an object with the fields as members, in any order and among
others, or an array of the fields in order. `declaration_read_iff` says that these values, in any text of them, are just
what is read as a declaration.
-/

namespace Adjudication

open Json

/-- An array of the names of modifiers, one for each of them. -/
def Json.Data.Lists (v : Data) (modifiers : List Modifier) : Prop :=
  ∃ vs, v = .array vs ∧ List.Forall₂ (fun v modifier => v.Names modifier.name) vs modifiers

/-- The values given for the fields of a declaration: one for the name and one for the kind, at most one for each of the
others. No modifiers are given by none, and a primary constructor is there unless it is said to be missing. -/
@[mk_iff]
structure Declaration.Given (d : Declaration) (names kinds modifiers constructors : List Data) : Prop where
  name : names = [.string d.name]
  kind : ∃ v, kinds = [v] ∧ v.Names d.kind.name
  modifiers : modifiers = [] ∧ d.modifiers = [] ∨ ∃ v, modifiers = [v] ∧ v.Lists d.modifiers
  constructible : constructors = [] ∧ d.hasPrimaryConstructor = true ∨
    constructors = [.boolean d.hasPrimaryConstructor]

/-- The values that stand for a declaration. In an object, other members do not matter. -/
inductive Json.Data.Declares : Data → Declaration → Prop where
  | object {members d}
      (given : d.Given (Data.valuesOf "name" members) (Data.valuesOf "kind" members)
        (Data.valuesOf "modifiers" members) (Data.valuesOf "has_primary_constructor" members)) :
      Declares (.object members) d
  | array {items d} (short : items.length ≤ 4)
      (given : d.Given items[0]?.toList items[1]?.toList items[2]?.toList items[3]?.toList) :
      Declares (.array items) d

/-! ### Fields -/

variable {v : Data} {d : Declaration}

theorem DeclarationKind.decoder_eq_ok_iff {kind : DeclarationKind} : decoder v.tree = .ok kind ↔ v.Names kind.name :=
  Decoder.enum_eq_ok_iff_names (by decide) lookup_name

theorem Modifier.decoder_eq_ok_iff {modifier : Modifier} : decoder v.tree = .ok modifier ↔ v.Names modifier.name :=
  Decoder.enum_eq_ok_iff_names (by decide) lookup_name

theorem Modifier.list_eq_ok_iff {modifiers : List Modifier} :
    Decoder.list decoder v.tree = .ok modifiers ↔ v.Lists modifiers := by
  simp only [Decoder.list_eq_ok_iff, decoder_eq_ok_iff, Data.Lists]

namespace Declaration

theorem Draft.finish_eq_ok_iff {draft : Draft} : draft.finish = .ok d ↔
    draft.name = some d.name ∧ draft.kind = some d.kind ∧ draft.modifiers.getD [] = d.modifiers ∧
      draft.hasPrimaryConstructor.getD true = d.hasPrimaryConstructor := by
  obtain ⟨name, kind, modifiers, constructor⟩ := draft
  obtain ⟨_, _, _, _⟩ := d
  cases name <;> cases kind <;> simp [finish, mismatch]

/-- What members make of a draft: each field is filled by the values that they have for it. -/
@[mk_iff]
structure Draft.Takes (members : List (String × Data)) (known after : Draft) : Prop where
  name : Filled (fun v name => v = .string name) known.name (Data.valuesOf "name" members) after.name
  kind : Filled (fun v (kind : DeclarationKind) => v.Names kind.name) known.kind (Data.valuesOf "kind" members) after.kind
  modifiers : Filled Data.Lists known.modifiers (Data.valuesOf "modifiers" members) after.modifiers
  constructible : Filled (fun v value => v = .boolean value) known.hasPrimaryConstructor
    (Data.valuesOf "has_primary_constructor" members) after.hasPrimaryConstructor

theorem readMembers_eq_ok_iff {members : List (String × Data)} {known after : Draft} :
    record.readMembers (memberTrees members) known = .ok after ↔ Draft.Takes members known after := by
  induction members generalizing known with
  | nil =>
    obtain ⟨_, _, _, _⟩ := known
    obtain ⟨_, _, _, _⟩ := after
    simp only [memberTrees, Record.readMembers, Data.valuesOf, Draft.takes_iff, List.filter_nil, List.map_nil,
      Filled.nil_iff, Except.ok.injEq, Draft.mk.injEq]
    simp only [eq_comm]
  | cons member members ih =>
    obtain ⟨key, v⟩ := member
    rw [memberTrees]
    -- A member fills the field that it has the name of, and leaves the others as they are.
    simp only [Draft.takes_iff, Data.valuesOf_cons]
    by_cases isName : key = "name"
    · subst isName
      rw [Record.readMembers_known Draft.name (fun known name => { known with name := some name }) rfl
        Decoder.string_eq_ok_iff]
      simp only [ih, Draft.takes_iff, Filled.cons_iff, if_true, String.reduceEq, if_false]
      tauto
    by_cases isKind : key = "kind"
    · subst isKind
      rw [Record.readMembers_known Draft.kind (fun known kind => { known with kind := some kind }) rfl
        DeclarationKind.decoder_eq_ok_iff]
      simp only [ih, Draft.takes_iff, Filled.cons_iff, if_true, String.reduceEq, if_false]
      tauto
    by_cases isModifiers : key = "modifiers"
    · subst isModifiers
      rw [Record.readMembers_known Draft.modifiers (fun known modifiers => { known with modifiers := some modifiers }) rfl
        Modifier.list_eq_ok_iff]
      simp only [ih, Draft.takes_iff, Filled.cons_iff, if_true, String.reduceEq, if_false]
      tauto
    by_cases isConstructor : key = "has_primary_constructor"
    · subst isConstructor
      rw [Record.readMembers_known Draft.hasPrimaryConstructor
        (fun known value => { known with hasPrimaryConstructor := some value }) rfl Decoder.boolean_eq_ok_iff]
      simp only [ih, Draft.takes_iff, Filled.cons_iff, if_true, String.reduceEq, if_false]
      tauto
    have unknown : record.fields.find? (·.name == key) = none := by
      simp [record, Ne.symm isName, Ne.symm isKind, Ne.symm isModifiers, Ne.symm isConstructor]
    rw [Record.readMembers_unknown unknown, ih]
    simp [Draft.takes_iff, isName, isKind, isModifiers, isConstructor]

theorem decoder_object_eq_ok_iff {members : List (String × Data)} :
    decoder (Data.object members).tree = .ok d ↔
      d.Given (Data.valuesOf "name" members) (Data.valuesOf "kind" members) (Data.valuesOf "modifiers" members)
        (Data.valuesOf "has_primary_constructor" members) := by
  have decoded : decoder (Data.object members).tree = .ok d ↔
      ∃ after, Draft.Takes members {} after ∧ after.finish = .ok d := by
    simp only [← readMembers_eq_ok_iff]
    exact bind_eq_ok_iff
  rw [decoded]
  simp only [Draft.finish_eq_ok_iff]
  constructor
  · rintro ⟨⟨_, _, modifiers, constructible⟩, taken, rfl, rfl, modifiersAre, constructibleIs⟩
    obtain ⟨_, named, rfl⟩ := (Filled.some_iff _).mp taken.name
    have kind := (Filled.some_iff _).mp taken.kind
    have modifiers := (Filled.getD_iff _).mp ⟨_, taken.modifiers, modifiersAre⟩
    obtain missing | ⟨_, given, rfl⟩ := (Filled.getD_iff _).mp ⟨_, taken.constructible, constructibleIs⟩
    · exact ⟨named, kind, modifiers, .inl missing⟩
    · exact ⟨named, kind, modifiers, .inr given⟩
  · intro given
    obtain ⟨modifiers, modifiersTaken, modifiersAre⟩ := (Filled.getD_iff _).mpr given.modifiers
    obtain ⟨constructible, constructibleTaken, constructibleIs⟩ :=
      (Filled.getD_iff fun v value => v = .boolean value).mpr
        (given.constructible.imp_right fun given => ⟨_, given, rfl⟩)
    exact ⟨⟨some d.name, some d.kind, modifiers, constructible⟩,
      ⟨(Filled.some_iff _).mpr ⟨_, given.name, rfl⟩, (Filled.some_iff _).mpr given.kind, modifiersTaken,
        constructibleTaken⟩, rfl, rfl, modifiersAre, constructibleIs⟩

/-- An array has the fields in order, and nothing else. -/
theorem decoder_array_eq_ok_iff {items : List Data} :
    decoder (Data.array items).tree = .ok d ↔
      items.length ≤ 4 ∧ d.Given items[0]?.toList items[1]?.toList items[2]?.toList items[3]?.toList := by
  have decoded : decoder (Data.array items).tree = .ok d ↔
      ∃ after, record.readItems record.fields 0 (itemTrees items) {} = .ok after ∧ after.finish = .ok d :=
    bind_eq_ok_iff
  rw [decoded]
  match items with
  | [] => simp [record, itemTrees, Record.readItems, given_iff, mismatch]
  | [name] => simp [record, itemTrees, Record.readItems, bind_eq_ok_iff, given_iff, mismatch]
  | [name, kind] =>
    simp [record, itemTrees, Record.readItems, bind_eq_ok_iff, Decoder.string_eq_ok_iff,
      DeclarationKind.decoder_eq_ok_iff, given_iff, Draft.finish_eq_ok_iff]
  | [name, kind, modifiers] =>
    simp [record, itemTrees, Record.readItems, bind_eq_ok_iff, Decoder.string_eq_ok_iff,
      DeclarationKind.decoder_eq_ok_iff, Modifier.list_eq_ok_iff, given_iff, Draft.finish_eq_ok_iff, and_assoc]
  | [name, kind, modifiers, constructible] =>
    simp [record, itemTrees, Record.readItems, bind_eq_ok_iff, Decoder.string_eq_ok_iff,
      DeclarationKind.decoder_eq_ok_iff, Modifier.list_eq_ok_iff, Decoder.boolean_eq_ok_iff, given_iff,
      Draft.finish_eq_ok_iff, and_assoc, -Bool.exists_bool]
  | name :: kind :: modifiers :: constructible :: more :: rest =>
    simp [record, itemTrees, Record.readItems, bind_eq_ok_iff]

theorem decoder_eq_ok_iff : decoder v.tree = .ok d ↔ v.Declares d := by
  cases v with
  | object members =>
    rw [decoder_object_eq_ok_iff]
    exact ⟨.object, by rintro ⟨given⟩; exact given⟩
  | array items =>
    rw [decoder_array_eq_ok_iff]
    exact ⟨fun fields => .array fields.1 fields.2, by rintro ⟨⟩; exact ⟨‹_›, ‹_›⟩⟩
  | null | boolean | number | string =>
    constructor
    · intro read
      simp [decoder, Data.tree, Record.decode, unexpected_ne_ok] at read
    · rintro ⟨⟩

theorem ofText_eq_ok_iff {text : String} (written : v.WrittenAs text) : ofText text = .ok d ↔ v.Declares d := by
  rw [ofText, decodeText_of_writtenAs written, decoder_eq_ok_iff]

theorem listOfText_eq_ok_iff {ds : List Declaration} {text : String} (written : v.WrittenAs text) :
    listOfText text = .ok ds ↔ ∃ vs, v = .array vs ∧ List.Forall₂ Data.Declares vs ds := by
  rw [listOfText, decodeText_of_writtenAs written, Decoder.list_eq_ok_iff]
  simp only [decoder_eq_ok_iff]

/-! ### The order of members -/

theorem Given.length_le_one {names kinds modifiers constructors : List Data}
    (given : d.Given names kinds modifiers constructors) :
    names.length ≤ 1 ∧ kinds.length ≤ 1 ∧ modifiers.length ≤ 1 ∧ constructors.length ≤ 1 := by
  obtain ⟨rfl, ⟨_, rfl, _⟩, ⟨rfl, _⟩ | ⟨_, rfl, _⟩, ⟨rfl, _⟩ | rfl⟩ := given <;> simp

end Declaration

theorem Json.Data.valuesOf_eq_of_perm {key : String} {members members' : List (String × Data)}
    (same : members.Perm members') (short : (Data.valuesOf key members).length ≤ 1) :
    Data.valuesOf key members' = Data.valuesOf key members := by
  have values : (Data.valuesOf key members).Perm (Data.valuesOf key members') := (same.filter _).map _
  match found : Data.valuesOf key members, short with
  | [], _ =>
    rw [found] at values
    exact values.nil_eq.symm
  | [v], _ =>
    rw [found] at values
    exact List.perm_singleton.mp values.symm

/-- An object with the same members in another order stands for the same declaration. -/
theorem Json.Data.Declares.perm {members members' : List (String × Data)} (declares : (Data.object members).Declares d)
    (same : members.Perm members') : (Data.object members').Declares d := by
  obtain ⟨given⟩ := declares
  obtain ⟨name, kind, modifiers, constructible⟩ := given.length_le_one
  refine .object ?_
  rw [valuesOf_eq_of_perm same name, valuesOf_eq_of_perm same kind, valuesOf_eq_of_perm same modifiers,
    valuesOf_eq_of_perm same constructible]
  exact given

/-! ### Texts of declarations -/

/-- In any text of a value, a declaration is read just where the value stands for it: whatever blanks and escapes the
text has, and in whatever order an object has its members. -/
theorem declaration_read_iff {text : String} (written : v.WrittenAs text) :
    (∀ d, Declaration.ofText text = .ok d ↔ v.Declares d) ∧
    (∀ other, v.WrittenAs other → Declaration.ofText other = Declaration.ofText text) ∧
    ∀ members members' other, v = .object members → members.Perm members' → (Data.object members').WrittenAs other →
      ∀ d, Declaration.ofText other = .ok d ↔ Declaration.ofText text = .ok d := by
  refine ⟨fun d => Declaration.ofText_eq_ok_iff written, fun other rewritten => ?_, ?_⟩
  · rw [Declaration.ofText, Declaration.ofText, decodeText_of_writtenAs written, decodeText_of_writtenAs rewritten]
  · rintro members members' other rfl same rewritten d
    rw [Declaration.ofText_eq_ok_iff written, Declaration.ofText_eq_ok_iff rewritten]
    exact ⟨fun declares => declares.perm same.symm, fun declares => declares.perm same⟩

/-- An object with escapes, a blank and another member, whose kind is an object itself. -/
theorem declaration_read_iff_escaped :
    let v : Data := .object [("kind", .object [("class", .null)]), ("x", .array [.object []]), ("name", .string "😀")]
    let text := "\x7b\"kind\":\x7b\"class\":null\x7d, \"x\":[\x7b\x7d],\"n\\u0061me\":\"\\ud83D\\ude00\"\x7d"
    v.WrittenAs text ∧ Declaration.ofText text = .ok ⟨"😀", .plainClass, [], true⟩ := by
  intro v text
  have kind : Spelling "kind".toList "kind".toList := by
    repeat refine .plain (by decide) (by decide) (by decide) ?_
    exact .nil
  have plainClass : Spelling "class".toList "class".toList := by
    repeat refine .plain (by decide) (by decide) (by decide) ?_
    exact .nil
  have x : Spelling "x".toList "x".toList := .plain (by decide) (by decide) (by decide) .nil
  have name : Spelling "name".toList "n\\u0061me".toList := by
    refine .plain (by decide) (by decide) (by decide) (@Spelling.unit _ ['0', '0', '6', '1'] _ _ ⟨rfl, rfl, rfl⟩ ?_)
    repeat refine .plain (by decide) (by decide) (by decide) ?_
    exact .nil
  have smile : Spelling "😀".toList "\\ud83D\\ude00".toList :=
    @Spelling.pair _ 0xD83D 0xDE00 ['d', '8', '3', 'D'] ['d', 'e', '0', '0'] _ _ (by decide) (by decide) rfl
      ⟨rfl, rfl, rfl⟩ ⟨rfl, rfl, rfl⟩ .nil
  have written : Written v.tokens text.toList := by
    have blank : Blank [' '] := by decide
    have row := Written.cons (.mark .openObject) <| .string_cons kind <| .cons (.mark .colon) <|
      .cons (.mark .openObject) <| .string_cons plainClass <| .cons (.mark .colon) <| .cons .null <|
      .cons (.mark .closeObject) <| .cons (.mark .comma) <| .after_blank blank <| .string_cons x <|
      .cons (.mark .colon) <| .cons (.mark .openArray) <| .cons (.mark .openObject) <| .cons (.mark .closeObject) <|
      .cons (.mark .closeArray) <| .cons (.mark .comma) <| .string_cons name <| .cons (.mark .colon) <|
      .string_cons smile <| .cons (.mark .closeObject) .nil
    simpa [Data.WrittenAs, v, text, Data.tokens, itemTokens, memberTokens, Mark.char, List.intercalate] using row
  exact ⟨written, ((declaration_read_iff written).1 _).mpr
    (.object ⟨rfl, ⟨_, rfl, .inr rfl⟩, .inl ⟨rfl, rfl⟩, .inl ⟨rfl, rfl⟩⟩)⟩

end Adjudication
