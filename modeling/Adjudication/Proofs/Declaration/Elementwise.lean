import Adjudication.Proofs.Declaration.Grammar
import Adjudication.Proofs.Json.Extension
import Adjudication.Settings
import Mathlib

/-!
# Declarations one by one

An array of declarations is read element by element, each as if its text stood alone. `declarations_elementwise` says so
of all texts of elements, and that the first of them that is no declaration decides what the error is, whatever comes
after it.
-/

namespace Adjudication

open Json

/-! ### Texts of arrays -/

namespace Json

/-- Some texts with a comma between each two of them, and any blanks around each. -/
inductive Row : List String → List Char → Prop where
  | last {e before after} (front : Blank before) (back : Blank after) : Row [e] (before ++ (e.toList ++ after))
  | comma {e es before after s} (front : Blank before) (back : Blank after) (row : Row es s) :
      Row (e :: es) (before ++ (e.toList ++ (after ++ ',' :: s)))

/-- A text that has some texts as the elements of an array. -/
inductive ArrayOf : List String → List Char → Prop where
  | empty {before inside after} (front : Blank before) (inner : Blank inside) (back : Blank after) :
      ArrayOf [] (before ++ '[' :: (inside ++ ']' :: after))
  | row {es s before after} (front : Blank before) (row : Row es s) (back : Blank after) :
      ArrayOf es (before ++ '[' :: (s ++ ']' :: after))

/-- A text that opens an array with some texts as its first elements, and goes on in any way or not at all. -/
inductive OpensArray : List String → List Char → Prop where
  | intro {es s before} (front : Blank before) (row : Row es s) (more : List Char) :
      OpensArray es (before ++ '[' :: (s ++ more))

/-- A string, an array or an object: values that have an end of their own. -/
def Tree.isEnclosed : Tree → Bool
  | .string _ | .array _ | .object _ => true
  | _ => false

/-- A text of one value that has an end of its own. -/
def Enclosed (text : String) : Prop :=
  (Document.ofString text).ends = true ∧ (Document.ofString text).tree.isEnclosed = true

/-! ### Elements -/

/-- What is read of a text that is closed, and nothing but blanks is left. -/
structure ReadsAs (text : String) (tree : Tree) : Prop where
  read : ∃ rest, readTree (3 * text.toList.length + 3) text.toList = (tree, some rest) ∧ Blank rest
  enclosed : tree.isEnclosed = true

variable {e text : String} {tree : Tree} {before after s t : List Char} {fuel : Nat}

theorem Enclosed.readsAs (enclosed : Enclosed text) : ReadsAs text (Document.ofString text).tree := by
  obtain ⟨ends, closed⟩ := enclosed
  refine ⟨?_, closed⟩
  unfold Document.ofString at ends ⊢
  generalize found : Tree.ofChars text.toList = out at ends ⊢
  obtain ⟨tree, left⟩ := out
  cases left with
  | none => cases ends
  | some rest =>
    have blank : skipBlanks rest = [] := List.isEmpty_iff.mp ends
    exact ⟨rest, found, List.dropWhile_eq_nil_iff.mp blank⟩

theorem readTree_blank (front : Blank before) (s : List Char) :
    readTree (fuel + 1) (before ++ s) = readTree (fuel + 1) s := by
  rw [readTree, readTree, skipBlanks_append front]

namespace ReadsAs

/-- An element is read as it is on its own, whatever follows it. -/
theorem readTree_element (reads : ReadsAs e tree) (front : Blank before) (t : List Char)
    (enough : 3 * (before ++ (e.toList ++ t)).length + 3 ≤ fuel) :
    ∃ rest, readTree fuel (before ++ (e.toList ++ t)) = (tree, some (rest ++ t)) ∧ Blank rest := by
  obtain ⟨⟨rest, read, blank⟩, enclosed⟩ := reads
  -- A number could go on in what follows; a value that has an end of its own cannot.
  have notNumber : ∀ n, tree = .number n → Stops (rest ++ t) := by
    rintro n rfl
    cases enclosed
  rw [List.length_append, List.length_append] at enough
  have again := readTree_append read notNumber (show 3 * e.toList.length + 3 ≤ fuel by omega)
  obtain ⟨fuel, rfl⟩ := Nat.exists_eq_succ_of_ne_zero (show fuel ≠ 0 by omega)
  exact ⟨rest, (readTree_blank front _).trans again, blank⟩

theorem head (reads : ReadsAs e tree) : ∃ c rest, skipBlanks e.toList = c :: rest ∧ c ≠ ']' := by
  obtain ⟨⟨rest, read, -⟩, -⟩ := reads
  rw [readTree] at read
  cases next : skipBlanks e.toList with
  | nil =>
    rw [next] at read
    cases read
  | cons c later =>
    refine ⟨c, later, rfl, ?_⟩
    rintro rfl
    rw [next] at read
    cases read

variable (reads : ReadsAs e tree) (front : Blank before)
include reads front

theorem readItem_any (t : List Char) (enough : 3 * (before ++ (e.toList ++ t)).length + 3 ≤ fuel) :
    ∃ items rest, readItem (fuel + 1) (before ++ (e.toList ++ t)) = (.item tree items, rest) := by
  obtain ⟨rest, read, -⟩ := reads.readTree_element front t enough
  rw [readItem, read]
  simp only
  split <;> exact ⟨_, _, rfl⟩

theorem readItem_comma (back : Blank after) (s : List Char)
    (enough : 3 * (before ++ (e.toList ++ (after ++ ',' :: s))).length + 3 ≤ fuel) :
    readItem (fuel + 1) (before ++ (e.toList ++ (after ++ ',' :: s))) =
      (.item tree (readItem fuel s).1, (readItem fuel s).2) := by
  obtain ⟨rest, read, blank⟩ := reads.readTree_element front _ enough
  have next : skipBlanks (rest ++ (after ++ ',' :: s)) = ',' :: s := by
    rw [skipBlanks_append blank, skipBlanks_append back, skipBlanks_cons (by decide)]
  rw [readItem, read]
  simp only [next]

theorem readItem_close (back : Blank after) (s : List Char)
    (enough : 3 * (before ++ (e.toList ++ (after ++ ']' :: s))).length + 3 ≤ fuel) :
    readItem (fuel + 1) (before ++ (e.toList ++ (after ++ ']' :: s))) = (.item tree .close, some s) := by
  obtain ⟨rest, read, blank⟩ := reads.readTree_element front _ enough
  have next : skipBlanks (rest ++ (after ++ ']' :: s)) = ']' :: s := by
    rw [skipBlanks_append blank, skipBlanks_append back, skipBlanks_cons (by decide)]
  rw [readItem, read]
  simp only [next]

end ReadsAs

/-! ### Arrays -/

def Items.ofTrees (trees : List Tree) : Items := trees.foldr .item .close

inductive Items.Starts : List Tree → Items → Prop where
  | nil {items} : Starts [] items
  | cons {tree trees items} (rest : Starts trees items) : Starts (tree :: trees) (.item tree items)

variable {es : List String} {trees : List Tree}

theorem readItem_row (row : Row es s) (reads : List.Forall₂ ReadsAs es trees) (t : List Char)
    (enough : 3 * (s ++ t).length + 4 ≤ fuel) :
    ∃ items rest, readItem fuel (s ++ t) = (items, rest) ∧ items.Starts trees := by
  induction row generalizing trees fuel with
  | last front back =>
    obtain _ | ⟨first, ⟨⟩⟩ := reads
    obtain ⟨fuel, rfl⟩ := Nat.exists_eq_succ_of_ne_zero (show fuel ≠ 0 by omega)
    simp only [List.append_assoc] at enough ⊢
    obtain ⟨items, rest, read⟩ := first.readItem_any front _ (Nat.le_of_succ_le_succ enough)
    exact ⟨_, rest, read, .cons .nil⟩
  | @comma _ _ _ _ later front back row ih =>
    obtain _ | ⟨first, others⟩ := reads
    obtain ⟨fuel, rfl⟩ := Nat.exists_eq_succ_of_ne_zero (show fuel ≠ 0 by omega)
    simp only [List.append_assoc, List.cons_append] at enough ⊢
    rw [first.readItem_comma front back _ (Nat.le_of_succ_le_succ enough)]
    have left : 3 * (later ++ t).length + 4 ≤ fuel := by
      simp only [List.length_append, List.length_cons] at enough ⊢
      omega
    obtain ⟨items, rest, read, starts⟩ := ih others left
    rw [read]
    exact ⟨_, rest, rfl, .cons starts⟩

theorem readItem_row_close (row : Row es s) (reads : List.Forall₂ ReadsAs es trees) (t : List Char)
    (enough : 3 * (s ++ ']' :: t).length + 4 ≤ fuel) :
    readItem fuel (s ++ ']' :: t) = (Items.ofTrees trees, some t) := by
  induction row generalizing trees fuel with
  | last front back =>
    obtain _ | ⟨first, ⟨⟩⟩ := reads
    obtain ⟨fuel, rfl⟩ := Nat.exists_eq_succ_of_ne_zero (show fuel ≠ 0 by omega)
    simp only [List.append_assoc] at enough ⊢
    exact first.readItem_close front back _ (Nat.le_of_succ_le_succ enough)
  | @comma _ _ _ _ later front back row ih =>
    obtain _ | ⟨first, others⟩ := reads
    obtain ⟨fuel, rfl⟩ := Nat.exists_eq_succ_of_ne_zero (show fuel ≠ 0 by omega)
    simp only [List.append_assoc, List.cons_append] at enough ⊢
    rw [first.readItem_comma front back _ (Nat.le_of_succ_le_succ enough)]
    have left : 3 * (later ++ ']' :: t).length + 4 ≤ fuel := by
      simp only [List.length_append, List.length_cons] at enough ⊢
      omega
    rw [ih others left]
    rfl

theorem readItem_skipBlanks (fuel : Nat) (s : List Char) :
    readItem (fuel + 2) (skipBlanks s) = readItem (fuel + 2) s := by
  have same : skipBlanks (skipBlanks s) = skipBlanks s := List.dropWhile_idempotent _ _
  have tree : readTree (fuel + 1) (skipBlanks s) = readTree (fuel + 1) s := by
    rw [readTree, readTree, same]
  rw [readItem, readItem, tree]

/-- After the opening bracket of an array the first of its elements is next. -/
theorem readItems_row (row : Row es s) (reads : List.Forall₂ ReadsAs es trees) (t : List Char) (fuel : Nat) :
    readItems (fuel + 3) (s ++ t) = readItem (fuel + 2) (s ++ t) := by
  have visible : ∃ c rest, skipBlanks (s ++ t) = c :: rest ∧ c ≠ ']' := by
    cases row with
    | last front | comma front =>
      obtain _ | ⟨first, -⟩ := reads
      obtain ⟨c, rest, next, notEnd⟩ := first.head
      rw [List.append_assoc, skipBlanks_append front, List.append_assoc, skipBlanks_append_of_cons next]
      exact ⟨c, _, rfl, notEnd⟩
  obtain ⟨c, rest, next, notEnd⟩ := visible
  rw [readItems_of_ne next notEnd, ← next, readItem_skipBlanks]

theorem ofChars_openArray (front : Blank before) (s : List Char) :
    ∃ fuel, 3 * s.length + 4 ≤ fuel + 2 ∧
      Tree.ofChars (before ++ '[' :: s) = (.array (readItems (fuel + 3) s).1, (readItems (fuel + 3) s).2) := by
  obtain ⟨fuel, enough⟩ : ∃ fuel, 3 * (before ++ '[' :: s).length + 3 = fuel + 4 :=
    ⟨3 * before.length + 3 * s.length + 2, by simp only [List.length_append, List.length_cons]; omega⟩
  refine ⟨fuel, ?_, ?_⟩
  · simp only [List.length_append, List.length_cons] at enough
    omega
  · have next : skipBlanks (before ++ '[' :: s) = '[' :: s := by
      rw [skipBlanks_append front, skipBlanks_cons (by decide)]
    rw [Tree.ofChars, enough, readTree]
    simp only [next]

theorem OpensArray.tree_eq (opens : OpensArray es text.toList) (reads : List.Forall₂ ReadsAs es trees) :
    ∃ items, (Document.ofString text).tree = .array items ∧ items.Starts trees := by
  generalize same : text.toList = chars at opens
  cases opens with
  | @intro s before front row more =>
    obtain ⟨fuel, enough, read⟩ := ofChars_openArray front (s ++ more)
    obtain ⟨items, rest, readRow, starts⟩ := readItem_row row reads more enough
    rw [readItems_row row reads, readRow] at read
    refine ⟨items, ?_, starts⟩
    unfold Document.ofString
    rw [same, read]
    cases rest <;> rfl

theorem ArrayOf.document (array : ArrayOf es text.toList) (reads : List.Forall₂ ReadsAs es trees) :
    Document.ofString text = ⟨.array (.ofTrees trees), true⟩ := by
  generalize same : text.toList = chars at array
  unfold Document.ofString
  rw [same]
  cases array with
  | @empty before inside after front inner back =>
    cases reads
    obtain ⟨fuel, -, read⟩ := ofChars_openArray front (inside ++ ']' :: after)
    have next : skipBlanks (inside ++ ']' :: after) = ']' :: after := by
      rw [skipBlanks_append inner, skipBlanks_cons (by decide)]
    rw [read, readItems]
    simp only [next, skipBlanks_eq_nil back]
    rfl
  | @row _ s before after front row back =>
    obtain ⟨fuel, enough, read⟩ := ofChars_openArray front (s ++ ']' :: after)
    rw [read, readItems_row row reads, readItem_row_close row reads after enough]
    simp only [skipBlanks_eq_nil back]
    rfl

theorem Data.WrittenAs.enclosed {v : Data} (written : v.WrittenAs text) (closed : v.tree.isEnclosed = true) :
    Enclosed text := by
  unfold Enclosed
  rw [Document.ofString_of_writtenAs written]
  exact ⟨rfl, closed⟩

/-! ### What is decoded -/

namespace Decoder

variable {α : Type} {item : Decoder α}

theorem items_ofTrees {as : List α} (read : List.Forall₂ (fun tree a => item tree = .ok a) trees as) :
    items item (.ofTrees trees) = .ok as := by
  induction read with
  | nil => rfl
  | cons first _ ih => exact bind_eq_ok_iff.mpr ⟨_, first, bind_eq_ok_iff.mpr ⟨_, ih, rfl⟩⟩

/-- The first item that is not what is wanted decides the error, whatever items come after it. -/
theorem items_of_starts {as : List α} {bad : Tree} {e : DecodeError} {xs : Items}
    (read : List.Forall₂ (fun tree a => item tree = .ok a) trees as) (wrong : item bad = .error e)
    (starts : xs.Starts (trees ++ [bad])) : items item xs = .error e := by
  induction read generalizing xs with
  | nil =>
    obtain _ | ⟨⟨⟩⟩ := starts
    rw [items, wrong]
    rfl
  | @cons _ a _ _ first _ ih =>
    obtain _ | ⟨rest⟩ := starts
    rw [items, first]
    change (items item _ >>= fun as => pure (a :: as)) = _
    rw [ih rest]
    rfl

end Decoder

end Json

namespace Declaration

variable {e text : String} {d : Declaration} {m : Mismatch} {tree : Tree}

theorem isEnclosed_of_ok (read : decoder tree = .ok d) : tree.isEnclosed = true := by
  cases tree with
  | string | array | object => rfl
  | null | boolean | number | broken => simp [decoder, Record.decode, unexpected_ne_ok] at read

theorem reads_of_ok (read : ofText e = .ok d) :
    ReadsAs e (Document.ofString e).tree ∧ decoder (Document.ofString e).tree = .ok d := by
  obtain ⟨other, decoded, ended⟩ := bind_eq_ok_iff.mp read
  cases ends : (Document.ofString e).ends with
  | false =>
    rw [ends] at ended
    cases ended
  | true =>
    rw [ends] at ended
    cases ended
    exact ⟨Enclosed.readsAs ⟨ends, isEnclosed_of_ok decoded⟩, decoded⟩

theorem decoder_of_mismatch (enclosed : Enclosed e) (wrong : ofText e = .error (.mismatch m)) :
    decoder (Document.ofString e).tree = .error (.mismatch m) := by
  simp only [ofText, decodeText, enclosed.1, if_true] at wrong
  cases decoded : decoder (Document.ofString e).tree with
  | error other =>
    rw [decoded] at wrong
    exact wrong
  | ok d =>
    rw [decoded] at wrong
    cases wrong

variable {es : List String} {ds : List Declaration}

theorem reads_each (read : List.Forall₂ (fun e d => ofText e = .ok d) es ds) :
    ∃ trees, List.Forall₂ ReadsAs es trees ∧ List.Forall₂ (fun tree d => decoder tree = .ok d) trees ds := by
  induction read with
  | nil => exact ⟨[], .nil, .nil⟩
  | cons first _ ih =>
    obtain ⟨reads, decoded⟩ := reads_of_ok first
    obtain ⟨trees, each, all⟩ := ih
    exact ⟨_ :: trees, .cons reads each, .cons decoded all⟩

theorem listOfText_of_arrayOf (read : List.Forall₂ (fun e d => ofText e = .ok d) es ds)
    (array : ArrayOf es text.toList) : listOfText text = .ok ds := by
  obtain ⟨trees, reads, decoded⟩ := reads_each read
  rw [listOfText, decodeText, array.document reads]
  exact bind_eq_ok_iff.mpr ⟨ds, Decoder.items_ofTrees decoded, rfl⟩

theorem listOfText_of_opensArray {bad : String} (read : List.Forall₂ (fun e d => ofText e = .ok d) es ds)
    (enclosed : Enclosed bad) (wrong : ofText bad = .error (.mismatch m))
    (opens : OpensArray (es ++ [bad]) text.toList) : listOfText text = .error (.mismatch m) := by
  obtain ⟨trees, reads, decoded⟩ := reads_each read
  obtain ⟨items, array, starts⟩ := opens.tree_eq (List.rel_append reads (.cons enclosed.readsAs .nil))
  have first : Decoder.items decoder items = .error (.mismatch m) :=
    Decoder.items_of_starts decoded (decoder_of_mismatch enclosed wrong) starts
  simp only [listOfText, decodeText, array]
  change (Decoder.items decoder items >>= fun ds => _) = _
  rw [first]
  rfl

end Declaration

/-- An array of texts, each of which is read as a declaration, is loaded as these declarations, with any blanks in it.
If a text of a string, an array or an object is no declaration, and why is not that it is malformed, then this is why an
array that opens with declarations and this text cannot be loaded, whatever comes after it. -/
theorem declarations_elementwise (files : Files) (path : String) :
    (∀ es ds text, List.Forall₂ (fun e d => Declaration.ofText e = .ok d) es ds → ArrayOf es text.toList →
      files path = .ok text → loadDeclarations files path = .ok ds) ∧
    (∀ (v : Data) text, v.WrittenAs text → v.tree.isEnclosed = true → Enclosed text) ∧
    ∀ es ds bad m text, List.Forall₂ (fun e d => Declaration.ofText e = .ok d) es ds → Enclosed bad →
      Declaration.ofText bad = .error (.mismatch m) → OpensArray (es ++ [bad]) text.toList → files path = .ok text →
      loadDeclarations files path = .error (.unusable path .declarations (.mismatch m)) := by
  refine ⟨fun es ds text read array file => ?_, fun v text written closed => written.enclosed closed,
    fun es ds bad m text read enclosed wrong opens file => ?_⟩
  · rw [loadDeclarations, load, file]
    simp only [Declaration.listOfText_of_arrayOf read array]
  · rw [loadDeclarations, load, file]
    simp only [Declaration.listOfText_of_opensArray read enclosed wrong opens]

/-- An array that is never closed, after a declaration whose name is a number. -/
theorem declarations_elementwise_unclosed :
    let good := "[\"a\", \"class\"]"
    let bad := "\x7b\"name\": 5\x7d"
    let files : Files := fun path =>
      .ok (if path = "closed" then "[ " ++ good ++ ",\n" ++ good ++ "] " else "[" ++ good ++ " ," ++ bad ++ ", and so on")
    loadDeclarations files "closed" = .ok [⟨"a", .plainClass, [], true⟩, ⟨"a", .plainClass, [], true⟩] ∧
    loadDeclarations files "open" =
      .error (.unusable "open" .declarations (.mismatch (.invalidType (.integer 5) "a string"))) ∧
    Enclosed "\"a\"" := by
  intro good bad files
  have read : Declaration.ofText good = .ok ⟨"a", .plainClass, [], true⟩ := by cbv
  have wrong : Declaration.ofText bad = .error (.mismatch (.invalidType (.integer 5) "a string")) := by cbv
  have enclosed : Enclosed bad := ⟨by cbv, by cbv⟩
  have none : Blank [] := by decide
  have blank : Blank [' '] := by decide
  have newLine : Blank ['\n'] := by decide
  refine ⟨?_, ?_, ?_⟩
  · have array := ArrayOf.row none (.comma (e := good) blank none (.last (e := good) newLine none)) blank
    exact (declarations_elementwise files "closed").1 _ _ _ (.cons read (.cons read .nil))
      (by simpa [good] using array) rfl
  · have opens := OpensArray.intro none (.comma (e := good) none blank (.last (e := bad) none none)) ", and so on".toList
    exact (declarations_elementwise files "open").2.2 [good] _ bad _ _ (.cons read .nil) enclosed wrong
      (by simpa [good, bad] using opens) rfl
  · have letter : Spelling "a".toList "a".toList := .plain (by decide) (by decide) (by decide) .nil
    exact (declarations_elementwise files "open").2.1 (.string "a") _ (Written.string_cons letter .nil) rfl

end Adjudication
