import Adjudication.Proofs.Toml.Reading
import Adjudication.Proofs.Toml.Tables

/-!
# Integers in documents

There are three ways to give an integer to a name in a table of a document: under the header of the table, by a dotted
key, and in an inline table. Whichever a document takes, and whatever else it says, the integer stands in its table:
`Gives.hasNumber`.
-/

namespace Adjudication.Toml

/-- Drops a byte order mark, if there is one. -/
def skipMark : List Char → List Char
  | '\ufeff' :: s => s
  | s => s

def assigning (assignments : List (Key × Node)) : List Statement := assignments.map fun a => .assignment a.1 a.2

/-- A text that gives an integer, in decimal, to a name in a table. Whole statements come before it, and before it in an
inline table whole pairs, in which values nest as deep as is left to them; what comes after it does not matter. -/
inductive Gives (table name : String) (k : Nat) (text : String) : Prop where
  | header {before assignments rest e u}
      (leave : StatementsLeave (before ++ .header false ⟨[], table⟩ :: assigning assignments)
        (skipMark text.toList) rest)
      (assigns : AssignsDecimal ⟨[], name⟩ k (skipLines false rest) e) (ended : statementEnd? e = some u)
  | dotted {assignments rest e u} (leave : StatementsLeave (assigning assignments) (skipMark text.toList) rest)
      (assigns : AssignsDecimal ⟨[table], name⟩ k (skipLines false rest) e) (ended : statementEnd? e = some u)
  | inline {assignments pairs rest v inside last e}
      (leave : StatementsLeave (assigning assignments) (skipMark text.toList) rest)
      (named : key? (skipLines false rest) = some (⟨[], table⟩, '=' :: v)) (opened : skipBlanks v = '\x7b' :: inside)
      (pairsLeave : PairsLeave 78 pairs inside last) (assigns : AssignsDecimal ⟨[], name⟩ k last e)
      (ended : (skipBlanks e).head? = some ',' ∨ (skipBlanks e).head? = some '\x7d')

variable {text table name : String} {s t u rest : List Char} {statements : List Statement} {root : Entries} {k : Nat}

/-! ### Statements and sections -/

theorem statements?_eq (s : List Char) : statements? s = readStatements? ((skipMark s).length + 1) (skipMark s) := by
  by_cases marked : ∃ t, s = '\ufeff' :: t
  · obtain ⟨t, rfl⟩ := marked
    rfl
  · have plain := not_exists.mp marked
    rw [statements?.eq_2 s plain, skipMark.eq_2 s plain]

theorem StatementsLeave.snoc {before : List Statement} {statement : Statement} (leave : StatementsLeave before s rest)
    (read : statement? (skipLines false rest) = some (statement, t)) (ended : statementEnd? t = some u) :
    StatementsLeave (before ++ [statement]) s u := by
  induction leave with
  | nil s => exact .cons read ended (.nil u)
  | cons first firstEnded _ ih => exact .cons first firstEnded (ih read)

/-- What is read of a document starts with the statements that some of it leave. -/
theorem statements?_append {before : List Statement} (leave : StatementsLeave before (skipMark text.toList) rest)
    (read : statements? text.toList = some statements) :
    ∃ fuel later, readStatements? fuel rest = some later ∧ statements = before ++ later := by
  rw [statements?_eq] at read
  exact readStatements?_append leave read

/-- Statements that leave nothing to read are all that is read of a text. -/
theorem readStatements?_of_leave {fuel : Nat} (leave : StatementsLeave statements s rest)
    (nothing : skipLines false rest = []) (enough : statements.length < fuel) :
    readStatements? fuel s = some statements := by
  induction leave generalizing fuel with
  | nil s =>
    obtain ⟨fuel, rfl⟩ := Nat.exists_eq_succ_of_ne_zero (Nat.ne_zero_of_lt enough)
    rw [readStatements?.eq_2, nothing]
  | cons read ended _ ih =>
    obtain ⟨fuel, rfl⟩ := Nat.exists_eq_succ_of_ne_zero (Nat.ne_zero_of_lt enough)
    rw [readStatements?_succ read ended, ih nothing (Nat.lt_of_succ_lt_succ enough)]
    rfl

namespace Section

theorem ofStatements_assigning (assignments : List (Key × Node)) (later : List Statement) :
    ofStatements (assigning assignments ++ later) =
      (assignments ++ (ofStatements later).1, (ofStatements later).2) := by
  induction assignments with
  | nil => rfl
  | cons assignment assignments ih =>
    rw [assigning, List.map_cons, List.cons_append, ofStatements, ← assigning, ih]
    rfl

/-- A header opens a section, and ends what is before it. -/
theorem ofStatements_header (before : List Statement) (many : Bool) (key : Key) (later : List Statement) :
    ofStatements (before ++ .header many key :: later) =
      ((ofStatements before).1,
        (ofStatements before).2 ++ ⟨many, key, (ofStatements later).1⟩ :: (ofStatements later).2) := by
  induction before with
  | nil => rfl
  | cons statement before ih => cases statement <;> simp [ofStatements, ih]

end Section

/-- A document is made of the assignments before its first header, and then of its sections. -/
theorem document?_eq_some_iff : document? text = some root ↔
    ∃ statements entries, statements? text.toList = some statements ∧
      Entries.assignAll .header (Section.ofStatements statements).1 [] = some entries ∧
      (Section.ofStatements statements).2.foldlM Section.addToRoot entries = some root := by
  simp [document?, Option.bind_eq_some_iff]

theorem document?_of_leave {entries : Entries} (leave : StatementsLeave statements (skipMark text.toList) rest)
    (nothing : skipLines false rest = []) (enough : statements.length ≤ (skipMark text.toList).length)
    (assigned : Entries.assignAll .header (Section.ofStatements statements).1 [] = some entries)
    (added : (Section.ofStatements statements).2.foldlM Section.addToRoot entries = some root) :
    document? text = some root := by
  refine document?_eq_some_iff.mpr ⟨statements, entries, ?_, assigned, added⟩
  rw [statements?_eq]
  exact readStatements?_of_leave leave nothing (Nat.lt_succ_of_le enough)

/-! ### The three ways -/

/-- A number that is assigned before the first header stands in the document. -/
theorem hasNumber_of_assignment {n : Number} {path : List String} {key : Key} {value : Node}
    {assignments : List (Key × Node)}
    (puts : ∀ {entries after}, Entries.assign key value .header entries = some after → HasNumber n path after)
    (leave : StatementsLeave (assigning assignments) (skipMark text.toList) rest)
    (read : statement? (skipLines false rest) = some (.assignment key value, t)) (ended : statementEnd? t = some u)
    (made : document? text = some root) : HasNumber n path root := by
  obtain ⟨_, entries, readAll, assigned, added⟩ := document?_eq_some_iff.mp made
  obtain ⟨_, later, -, rfl⟩ := statements?_append (leave.snoc read ended) readAll
  rw [List.append_assoc, Section.ofStatements_assigning] at assigned added
  have placed : HasNumber n path entries := Entries.assignAll_has puts assigned
  exact Section.addAll_keeps added _ _ placed

/-- A number that is assigned under the header of a table stands in this table of the document. -/
theorem hasNumber_of_header {n : Number} {before : List Statement} {assignments : List (Key × Node)}
    (leave : StatementsLeave (before ++ .header false ⟨[], table⟩ :: assigning assignments) (skipMark text.toList) rest)
    (read : statement? (skipLines false rest) = some (.assignment ⟨[], name⟩ (.number n), t))
    (ended : statementEnd? t = some u) (made : document? text = some root) : HasNumber n [table, name] root := by
  obtain ⟨_, entries, readAll, -, added⟩ := document?_eq_some_iff.mp made
  obtain ⟨_, later, -, rfl⟩ := statements?_append (leave.snoc read ended) readAll
  rw [List.append_assoc, List.append_assoc, List.cons_append, Section.ofStatements_header,
    Section.ofStatements_assigning] at added
  obtain ⟨_, -, added⟩ := Option.bind_eq_some_iff.mp (List.foldlM_append.symm.trans added)
  rw [List.foldlM_cons] at added
  obtain ⟨after, addedOne, addedRest⟩ := Option.bind_eq_some_iff.mp added
  have placed : HasNumber n [table, name] after :=
    Section.addToRoot_has (Entries.assignAll_has Entries.assign_has) addedOne
  exact Section.addAll_keeps addedRest _ _ placed

/-- Where a key is next in a document, its value is read. -/
theorem assignment_of_key? {key : Key} {v : List Char} {before : List Statement}
    (leave : StatementsLeave before (skipMark text.toList) rest)
    (named : key? (skipLines false rest) = some (key, '=' :: v)) (made : document? text = some root) :
    ∃ value t u, value? (skipBlanks v) = some (value, t) ∧
      statement? (skipLines false rest) = some (.assignment key value, t) ∧ statementEnd? t = some u := by
  obtain ⟨_, _, readAll, -, -⟩ := document?_eq_some_iff.mp made
  obtain ⟨fuel, later, readLater, -⟩ := statements?_append leave readAll
  have goesOn : skipLines false rest ≠ [] := by
    intro nothing
    rw [nothing] at named
    cases named
  obtain ⟨statement, _, u, read, ended⟩ := readStatements?_next goesOn readLater
  have assigned := (statement?_of_key? named).symm.trans read
  rw [assignment?, named, Option.bind_eq_bind, Option.bind_some] at assigned
  obtain ⟨⟨value, t⟩, found, ⟨⟩⟩ := Option.bind_eq_some_iff.mp assigned
  exact ⟨value, _, u, found, read, ended⟩

/-- An inline table that is read has the integer that its text gives. -/
theorem inlineTable_has {pairs : List (Key × Node)} {inside last e : List Char} {value : Node}
    (read : value? ('\x7b' :: inside) = some (value, t)) (leave : PairsLeave 78 pairs inside last)
    (assigns : AssignsDecimal ⟨[], name⟩ k last e) (small : k < int64Bound) (ends : EndsInteger e) :
    ∃ entries, value = .table .inline entries ∧ HasNumber (.integer k) [name] entries := by
  rw [value?, maxDepth, readValue?.eq_5] at read
  obtain ⟨⟨_, _⟩, readPairs, made⟩ := Option.bind_eq_some_iff.mp read
  obtain ⟨_, table, ⟨⟩⟩ := Option.bind_eq_some_iff.mp made
  obtain ⟨later, rfl⟩ := readPairs?_decimal leave assigns small ends readPairs
  obtain ⟨entries, assigned, rfl⟩ := Option.map_eq_some_iff.mp table
  exact ⟨entries, rfl, Entries.assignAll_has Entries.assign_has assigned⟩

/-- The integer stands in the table that a text gives it in. -/
theorem Gives.hasNumber (gives : Gives table name k text) (small : k < int64Bound) (made : document? text = some root) :
    HasNumber (.integer k) [table, name] root := by
  cases gives with
  | header leave assigns ended =>
    exact hasNumber_of_header leave (assigns.statement? small (endsInteger_of_statementEnd? ended)) ended made
  | dotted leave assigns ended =>
    have read := assigns.statement? small (endsInteger_of_statementEnd? ended)
    exact hasNumber_of_assignment Entries.assign_dotted_has leave read ended made
  | inline leave named opened pairsLeave assigns ended =>
    obtain ⟨value, t, u, found, read, statementEnded⟩ := assignment_of_key? leave named made
    have ends : EndsInteger _ := endsInteger_of_skipBlanks fun c first => by
      rcases ended with comma | closed
      · cases comma.symm.trans first
        decide
      · cases closed.symm.trans first
        decide
    rw [opened] at found
    obtain ⟨entries, rfl, has⟩ := inlineTable_has found pairsLeave assigns small ends
    exact hasNumber_of_assignment (fun assigned => .inside (Entries.assign_lookup assigned) has) leave read
      statementEnded made

end Adjudication.Toml
