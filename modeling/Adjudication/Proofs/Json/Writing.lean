import Adjudication.Json.Value
import Adjudication.Proofs.Json.Grammar
import Adjudication.Proofs.Text.Digits
import Mathlib.Data.List.Forall2

/-!
# Writing values

What is written of a value, compact or pretty, is a text of it.
-/

namespace Adjudication.Json

/-- The written forms. -/
inductive Form where
  | compact
  | pretty

namespace Value

def write (form : Form) (v : Value) : String :=
  match form with
  | .compact => v.compact
  | .pretty => v.pretty

mutual

/-- The value that is written; a number is spelled in decimal. -/
def data : Value → Data
  | .null => .null
  | .boolean value => .boolean value
  | .number value => .number ⟨false, (toString value).toList, none, none⟩
  | .string value => .string value
  | .array items => .array (itemsData items)
  | .object members => .object (membersData members)

def itemsData : List Value → List Data
  | [] => []
  | item :: items => item.data :: itemsData items

def membersData : List (String × Value) → List (String × Data)
  | [] => []
  | (key, value) :: members => (key, value.data) :: membersData members

end

theorem itemsData_eq (items : List Value) : itemsData items = items.map data := by
  induction items with
  | nil => rfl
  | cons item items ih => rw [itemsData, ih, List.map_cons]

theorem membersData_eq (members : List (String × Value)) :
    membersData members = members.map fun m => (m.1, m.2.data) := by
  induction members with
  | nil => rfl
  | cons member members ih => rw [membersData, ih, List.map_cons]

/-- What holds of a value if it holds of all values in it holds of every value. -/
@[induction_eliminator]
theorem induct {motive : Value → Prop} (null : motive .null) (boolean : ∀ value, motive (.boolean value))
    (number : ∀ value, motive (.number value)) (string : ∀ value, motive (.string value))
    (array : ∀ items, (∀ v ∈ items, motive v) → motive (.array items))
    (object : ∀ members : List (String × Value), (∀ m ∈ members, motive m.2) → motive (.object members)) :
    ∀ v, motive v :=
  @Value.rec motive (fun items => ∀ v ∈ items, motive v) (fun members => ∀ m ∈ members, motive m.2)
    (fun m => motive m.2) null boolean number string array object
    nofun (fun _ _ first rest => List.forall_mem_cons.mpr ⟨first, rest⟩)
    nofun (fun _ _ first rest => List.forall_mem_cons.mpr ⟨first, rest⟩)
    (fun _ _ value => value)

theorem compactItems_eq (items : List Value) : compactItems items = items.map compact := by
  induction items with
  | nil => rfl
  | cons item items ih => rw [compactItems, ih, List.map_cons]

theorem compactMembers_eq (members : List (String × Value)) :
    compactMembers members = members.map fun m => writeString m.1 ++ ":" ++ m.2.compact := by
  induction members with
  | nil => rfl
  | cons member members ih => rw [compactMembers, ih, List.map_cons]

theorem prettyItems_eq (level : Nat) (items : List Value) : prettyItems level items = items.map (prettyAt level) := by
  induction items with
  | nil => rfl
  | cons item items ih => rw [prettyItems, ih, List.map_cons]

theorem prettyMembers_eq (level : Nat) (members : List (String × Value)) :
    prettyMembers level members = members.map fun m => writeString m.1 ++ ": " ++ m.2.prettyAt level := by
  induction members with
  | nil => rfl
  | cons member members ih => rw [prettyMembers, ih, List.map_cons]

theorem itemTokens_data (items : List Value) : itemTokens (itemsData items) = items.map (·.data.tokens) := by
  induction items with
  | nil => rfl
  | cons item items ih => rw [itemsData, itemTokens, ih, List.map_cons]

theorem memberTokens_data (members : List (String × Value)) :
    memberTokens (membersData members) = members.map fun m => .string m.1 :: .mark .colon :: m.2.data.tokens := by
  induction members with
  | nil => rfl
  | cons member members ih => rw [membersData, memberTokens, ih, List.map_cons]

end Value

/-! ### Tokens -/

theorem hexSpells_control {code : Nat} (control : code < 0x20) :
    HexSpells code ['0', '0', Nat.digitChar (code / 16), Nat.digitChar (code % 16)] := by
  have each : ∀ code < 0x20,
      ['0', '0', Nat.digitChar (code / 16), Nat.digitChar (code % 16)].all (Text.isDigitOf 16) ∧
      Text.digitsValue 16 ['0', '0', Nat.digitChar (code / 16), Nat.digitChar (code % 16)] = code := by
    decide
  exact ⟨rfl, (each code control).1, (each code control).2⟩

theorem spelling_escapeChar (c : Char) {text s : List Char} (rest : Spelling text s) :
    Spelling (c :: text) (escapeChar c ++ s) := by
  unfold escapeChar
  split_ifs with quote backslash back feed line carriage tab control
  any_goals
    subst c
    exact .short (by decide) rest
  · exact .unit (hexSpells_control control) rest
  · exact .plain (Nat.le_of_not_lt control) quote backslash rest

theorem spelling_writeString (text : List Char) : Spelling text (text.flatMap escapeChar) := by
  induction text with
  | nil => exact .nil
  | cons c text ih => exact spelling_escapeChar c ih

theorem toList_writeString (text : String) :
    (writeString text).toList = '"' :: (text.toList.flatMap escapeChar ++ ['"']) := by
  simp [writeString]

theorem written_writeString (text : String) {tokens : List Token} {t : List Char} (written : Written tokens t) :
    Written (.string text :: tokens) ((writeString text).toList ++ t) := by
  rw [toList_writeString]
  exact .cons (.string (spelling_writeString _)) written

theorem digits_toDigits (n : Nat) : Digits (Nat.toDigits 10 n) :=
  ⟨Nat.toDigits_ne_nil, fun _ member => Nat.isDigit_of_mem_toDigits (by decide) (by decide) member⟩

theorem spells_decimal (n : Nat) : Number.Spells ⟨false, (toString n).toList, none, none⟩ (toString n).toList := by
  have digits : (toString n).toList = Nat.toDigits 10 n := by
    rw [Nat.toString_eq_ofList_toDigits, String.toList_ofList]
  rw [digits]
  simpa using @Number.Spells.intro false _ _ _ _ _ (digits_toDigits n) (Text.toDigits_lead n) .absent .absent

theorem written_intercalate {separator : List Char} {tokens : List (List Token)} {parts : List (List Char)}
    (comma : Written [.mark .comma] separator) (written : List.Forall₂ Written tokens parts) :
    Written (List.intercalate [.mark .comma] tokens) (List.intercalate separator parts) := by
  induction written with
  | nil => exact .nil
  | @cons _ _ tokens parts first rest ih =>
    cases rest with
    | nil => simpa using first
    | cons second rest =>
      rw [List.intercalate_cons_cons, List.intercalate_cons_cons]
      exact (first.append comma).append ih

/-- Parts between marks, with blanks after the opening one, after each comma and before the closing one. -/
theorem written_enclosed (opening closing : Mark) {before gap after : List Char} {tokens : List (List Token)}
    {parts : List (List Char)} (blankBefore : Blank before) (blankGap : Blank gap) (blankAfter : Blank after)
    (written : List.Forall₂ Written tokens parts) :
    Written (.mark opening :: (List.intercalate [.mark .comma] tokens ++ [.mark closing]))
      (opening.char :: (before ++ (List.intercalate (',' :: gap) parts ++ (after ++ [closing.char])))) := by
  have comma : Written [.mark .comma] (',' :: gap) := .mark_cons .comma (.blank blankGap)
  have closed : Written [.mark closing] (after ++ [closing.char]) := .after_blank blankAfter (.mark_cons closing .nil)
  exact .mark_cons opening (.after_blank blankBefore ((written_intercalate comma written).append closed))

theorem written_member (key : String) {gap t : List Char} {tokens : List Token} (blank : Blank gap)
    (written : Written tokens t) :
    Written (.string key :: .mark .colon :: tokens) ((writeString key).toList ++ ':' :: (gap ++ t)) :=
  written_writeString key (.mark_cons .colon (.after_blank blank written))

/-! ### Values -/

namespace Value

theorem written_number (value : Nat) : Written (number value).data.tokens (toString value).toList := by
  have spelled := Written.cons (.number (spells_decimal value)) .nil
  rw [List.append_nil] at spelled
  exact spelled

theorem written_string (value : String) : Written (string value).data.tokens (writeString value).toList := by
  have spelled := written_writeString value .nil
  rw [List.append_nil] at spelled
  exact spelled

theorem written_boolean (value : Bool) : Written (boolean value).data.tokens (toString value).toList := by
  cases value with
  | true => exact .cons .yes .nil
  | false => exact .cons .no .nil

/-- The parts of an array are texts of its items, if each item is written as a text of it. -/
theorem written_items {write : Value → String} {items : List Value}
    (each : ∀ v ∈ items, Written v.data.tokens (write v).toList) :
    List.Forall₂ Written (itemTokens (itemsData items)) ((items.map write).map String.toList) := by
  simp only [itemTokens_data, List.map_map, List.forall₂_map_left_iff, List.forall₂_map_right_iff, List.forall₂_same]
  exact each

/-- The parts of an object are texts of its members, with any blanks after the colons. -/
theorem written_members {write : Value → String} {separator : String} {gap : List Char}
    (colon : separator.toList = ':' :: gap) (blank : Blank gap) {members : List (String × Value)}
    (each : ∀ m ∈ members, Written m.2.data.tokens (write m.2).toList) :
    List.Forall₂ Written (memberTokens (membersData members))
      ((members.map fun m => writeString m.1 ++ separator ++ write m.2).map String.toList) := by
  simp only [memberTokens_data, List.map_map, List.forall₂_map_left_iff, List.forall₂_map_right_iff, List.forall₂_same]
  intro m member
  simpa [colon] using written_member m.1 blank (each m member)

/-- The compact form of a value is a text of it. -/
theorem written_compact (v : Value) : Written v.data.tokens v.compact.toList := by
  have none : Blank [] := nofun
  induction v with
  | null => exact .cons .null .nil
  | boolean value => exact written_boolean value
  | number value => exact written_number value
  | string value => exact written_string value
  | array items ih =>
    have written := written_enclosed .openArray .closeArray none none none (written_items ih)
    simpa [data, Data.tokens, compact, compactItems_eq, Mark.char] using written
  | object members ih =>
    have parts := written_members (show ":".toList = [':'] from rfl) none ih
    have written := written_enclosed .openObject .closeObject none none none parts
    simpa [data, Data.tokens, compact, compactMembers_eq, Mark.char] using written

theorem blank_newLine (level : Nat) : Blank (newLine level).toList := by
  intro c member
  simp only [newLine, String.toList_append, String.toList_ofList, List.mem_append, List.mem_replicate] at member
  rcases member with line | ⟨-, rfl⟩
  · cases List.mem_singleton.mp line
    decide
  · decide

theorem written_block (level : Nat) (opening closing : Mark) {tokens : List (List Token)} {parts : List String}
    (written : List.Forall₂ Written tokens (parts.map String.toList)) :
    Written (.mark opening :: (List.intercalate [.mark .comma] tokens ++ [.mark closing]))
      (block level (String.singleton opening.char) (String.singleton closing.char) parts).toList := by
  cases parts with
  | nil =>
    cases written
    simpa [block] using Written.mark_cons opening (.mark_cons closing .nil)
  | cons part parts =>
    have inner := blank_newLine (level + 1)
    simpa [block] using written_enclosed opening closing inner inner (blank_newLine level) written

theorem written_prettyAt (v : Value) (level : Nat) : Written v.data.tokens (v.prettyAt level).toList := by
  induction v generalizing level with
  | null =>
    rw [prettyAt]
    exact .cons .null .nil
  | boolean value =>
    rw [prettyAt]
    exact written_boolean value
  | number value =>
    rw [prettyAt]
    exact written_number value
  | string value =>
    rw [prettyAt]
    exact written_string value
  | array items ih =>
    rw [prettyAt, prettyItems_eq]
    exact written_block level .openArray .closeArray (written_items fun v member => ih v member (level + 1))
  | object members ih =>
    have blank : Blank [' '] := by decide
    have parts := written_members (show ": ".toList = [':', ' '] from rfl) blank fun m member => ih m member (level + 1)
    rw [prettyAt, prettyMembers_eq]
    exact written_block level .openObject .closeObject parts

/-- What is written of a value, in either form, is a text of it. -/
theorem writtenAs_write (form : Form) (v : Value) : v.data.WrittenAs (v.write form) := by
  cases form with
  | compact => exact v.written_compact
  | pretty => exact v.written_prettyAt 0

end Value

end Adjudication.Json
