import Adjudication.Proofs.Toml.Integers
import Mathlib

/-!
# Reading on from within a document

Reading a text goes on from what its first statements leave as it does from the start of a text, and reading an inline
table from what its first pairs leave. So a statement or a pair that stands somewhere in a text is read there as it is
anywhere else: `readStatements?_append` and `readPair?_append`.
-/

namespace Adjudication.Toml

variable {s t u rest : List Char} {fuel more depth : Nat}

/-! ### Fuel -/

theorem bind_some_of_imp {α β : Type} {x y : Option α} {f g : α → Option β} {b : β}
    (first : ∀ {a}, x = some a → y = some a) (later : ∀ a, f a = some b → g a = some b) (found : x.bind f = some b) :
    y.bind g = some b := by
  obtain ⟨a, read, made⟩ := Option.bind_eq_some_iff.mp found
  exact Option.bind_eq_some_iff.mpr ⟨a, first read, later a made⟩

/-- What the readers make of a text with some fuel, they make of it with more. -/
structure Grows (fuel more : Nat) : Prop where
  value : ∀ {depth s r}, readValue? fuel depth s = some r → readValue? more depth s = some r
  items : ∀ {depth s r}, readItems? fuel depth s = some r → readItems? more depth s = some r
  pairs : ∀ {depth s r}, readPairs? fuel depth s = some r → readPairs? more depth s = some r
  pair : ∀ {depth s r}, readPair? fuel depth s = some r → readPair? more depth s = some r

/-- A value that is no array and no table is read without calling another reader. -/
theorem readValue?_of_ne (notArray : ∀ rest, s ≠ '[' :: rest) (notTable : ∀ rest, s ≠ '\x7b' :: rest) :
    readValue? (fuel + 1) depth s = readValue? (more + 1) depth s := by
  by_cases yes : ∃ rest, s = 't' :: rest
  · obtain ⟨rest, rfl⟩ := yes
    rw [readValue?.eq_6, readValue?.eq_6]
  by_cases no : ∃ rest, s = 'f' :: rest
  · obtain ⟨rest, rfl⟩ := no
    rw [readValue?.eq_7, readValue?.eq_7]
  have notYes := not_exists.mp yes
  have notNo := not_exists.mp no
  rw [readValue?.eq_8 _ _ _ notArray notTable notYes notNo, readValue?.eq_8 _ _ _ notArray notTable notYes notNo]

namespace Grows

variable (below : Grows fuel more)
include below

theorem value_succ {r : Node × List Char} (read : readValue? (fuel + 1) depth s = some r) :
    readValue? (more + 1) depth s = some r := by
  by_cases array : ∃ rest, s = '[' :: rest
  · obtain ⟨rest, rfl⟩ := array
    cases depth with
    | zero =>
      rw [readValue?.eq_2] at read
      cases read
    | succ depth =>
      rw [readValue?.eq_3] at read ⊢
      obtain ⟨out, found, same⟩ := Option.map_eq_some_iff.mp read
      exact Option.map_eq_some_iff.mpr ⟨out, below.items found, same⟩
  by_cases table : ∃ rest, s = '\x7b' :: rest
  · obtain ⟨rest, rfl⟩ := table
    cases depth with
    | zero =>
      rw [readValue?.eq_4] at read
      cases read
    | succ depth =>
      rw [readValue?.eq_5] at read ⊢
      exact bind_some_of_imp below.pairs (fun _ made => made) read
  rw [← read]
  exact readValue?_of_ne (not_exists.mp array) (not_exists.mp table)

theorem items_succ {r : List Node × List Char} (read : readItems? (fuel + 1) depth s = some r) :
    readItems? (more + 1) depth s = some r := by
  rw [readItems?] at read ⊢
  split at read
  · exact read
  · refine bind_some_of_imp below.value (fun out made => ?_) read
    obtain ⟨item, s⟩ := out
    dsimp only at made ⊢
    generalize skipLines false s = next at made ⊢
    split at made
    · exact made
    · exact bind_some_of_imp below.items (fun _ made => made) made
    · cases made

theorem pairs_succ {r : List (Key × Node) × List Char} (read : readPairs? (fuel + 1) depth s = some r) :
    readPairs? (more + 1) depth s = some r := by
  rw [readPairs?] at read ⊢
  split at read
  · exact read
  · exact below.pair read

theorem pair_succ {r : List (Key × Node) × List Char} (read : readPair? (fuel + 1) depth s = some r) :
    readPair? (more + 1) depth s = some r := by
  rw [readPair?] at read ⊢
  refine bind_some_of_imp id (fun out made => ?_) read
  obtain ⟨key, s⟩ := out
  dsimp only at made ⊢
  split at made
  · refine bind_some_of_imp below.value (fun out made => ?_) made
    obtain ⟨value, s⟩ := out
    dsimp only at made ⊢
    generalize skipBlanks s = next at made ⊢
    split at made
    · exact made
    · exact bind_some_of_imp below.pair (fun _ made => made) made
    · cases made
  · cases made

end Grows

theorem grows (enough : fuel ≤ more) : Grows fuel more := by
  -- The readers call one another, so what is carried through the fuel is about all four of them.
  induction fuel generalizing more with
  | zero => exact ⟨by simp [readValue?], by simp [readItems?], by simp [readPairs?], by simp [readPair?]⟩
  | succ fuel ih =>
    obtain ⟨more, rfl⟩ := Nat.exists_eq_succ_of_ne_zero (Nat.ne_zero_of_lt enough)
    have below := ih (Nat.le_of_succ_le_succ enough)
    exact ⟨below.value_succ, below.items_succ, below.pairs_succ, below.pair_succ⟩

/-- With whatever fuel a value is read, it is read as the same. -/
theorem readValue?_unique {r r' : Node × List Char} (read : readValue? fuel depth s = some r)
    (other : readValue? more depth s = some r') : r = r' := by
  have first := (grows (Nat.le_max_left fuel more)).value read
  have second := (grows (Nat.le_max_right fuel more)).value other
  exact Option.some.inj (first.symm.trans second)

/-! ### Assignments of integers -/

/-- A key and then the decimal digits of an integer as its value, and what follows them. -/
inductive AssignsDecimal (key : Key) (k : Nat) (s e : List Char) : Prop where
  | intro {v} (named : key? s = some (key, '=' :: v)) (decimal : skipBlanks v = Nat.toDigits 10 k ++ e)

theorem isFollower_of_isBlank {c : Char} (blank : isBlank c) : c ∈ followers := by
  simp only [isBlank, Bool.or_eq_true, decide_eq_true_eq] at blank
  rcases blank with same | same <;> rw [same] <;> decide

theorem skipBlanks_decimal (k : Nat) (e : List Char) :
    skipBlanks (Nat.toDigits 10 k ++ e) = Nat.toDigits 10 k ++ e := by
  obtain ⟨d, digits, same, digit⟩ := decimal_eq_cons k
  have visible : ¬ isBlank d := by
    intro blank
    have same : d = ' ' ∨ d = '\t' := by simpa [isBlank] using blank
    rcases same with rfl | rfl <;> exact absurd digit (by decide)
  rw [same, List.cons_append, skipBlanks, List.dropWhile_cons_of_neg visible]

/-- After blanks, the end of an integer may follow it as well. -/
theorem endsInteger_of_skipBlanks {e : List Char} (ends : EndsInteger (skipBlanks e)) : EndsInteger e := by
  intro c first
  cases e with
  | nil => cases first
  | cons d e =>
    cases first
    by_cases blank : isBlank c
    · exact isFollower_of_isBlank blank
    · rw [skipBlanks, List.dropWhile_cons_of_neg blank] at ends
      exact ends c rfl

theorem endsInteger_of_statementEnd? {e : List Char} (ended : statementEnd? e = some t) : EndsInteger e := by
  refine endsInteger_of_skipBlanks fun c first => ?_
  rw [statementEnd?] at ended
  generalize skipBlanks e = e at *
  cases e with
  | nil => cases first
  | cons d e =>
    cases first
    by_cases comment : c = '#'
    · subst comment
      decide
    · rw [skipComment.eq_2 _ fun _ same => comment (List.cons.inj same).1] at ended
      simp only [lineEnd?] at ended
      split at ended
      · rename_i same
        cases same
        decide
      · rename_i same
        cases same
        decide
      · cases ended

/-- No key starts with a bracket, so what a key stands before is an assignment. -/
theorem statement?_of_key? {found : Key × List Char} (named : key? s = some found) : statement? s = assignment? s := by
  have notOpen : ∀ rest, s ≠ '[' :: rest := by
    rintro rest rfl
    cases named
  exact statement?.eq_3 s (fun rest => notOpen ('[' :: rest)) notOpen

theorem AssignsDecimal.key? {key : Key} {k : Nat} {e : List Char} (assigns : AssignsDecimal key k s e) :
    ∃ v, Toml.key? s = some (key, '=' :: v) := by
  obtain ⟨named, -⟩ := assigns
  exact ⟨_, named⟩

theorem AssignsDecimal.statement? {key : Key} {k : Nat} {e : List Char} (assigns : AssignsDecimal key k s e)
    (small : k < int64Bound) (ends : EndsInteger e) :
    Toml.statement? s = some (.assignment key (.number (.integer k)), e) := by
  obtain ⟨named, decimal⟩ := assigns
  rw [statement?_of_key? named, assignment?, named]
  simp [decimal, value?, readValue?_decimal ends _ _ small]

/-! ### Statements -/

/-- What the first statements of a text leave of it. -/
inductive StatementsLeave : List Statement → List Char → List Char → Prop where
  | nil (s : List Char) : StatementsLeave [] s s
  | cons {statement statements s t u rest} (read : statement? (skipLines false s) = some (statement, t))
      (ended : statementEnd? t = some u) (leave : StatementsLeave statements u rest) :
      StatementsLeave (statement :: statements) s rest

theorem readStatements?_succ {statement : Statement} (read : statement? (skipLines false s) = some (statement, t))
    (ended : statementEnd? t = some u) :
    readStatements? (fuel + 1) s = (readStatements? fuel u).map (statement :: ·) := by
  have notEnd : skipLines false s ≠ [] := by
    intro nothing
    rw [nothing] at read
    cases read
  rw [readStatements?.eq_2]
  split
  · contradiction
  · simp [read, ended, Option.map_eq_bind]

/-- Where a text goes on, a statement is read. -/
theorem readStatements?_next {statements : List Statement} (goesOn : skipLines false s ≠ [])
    (read : readStatements? fuel s = some statements) :
    ∃ statement t u, Toml.statement? (skipLines false s) = some (statement, t) ∧ statementEnd? t = some u := by
  cases fuel with
  | zero => cases read
  | succ fuel =>
    rw [readStatements?.eq_2] at read
    split at read
    · contradiction
    · obtain ⟨⟨statement, t⟩, found, made⟩ := Option.bind_eq_some_iff.mp read
      obtain ⟨u, ended, -⟩ := Option.bind_eq_some_iff.mp made
      exact ⟨statement, t, u, found, ended⟩

/-- The statements of a text are its first ones and those of what they leave. -/
theorem readStatements?_append {statements before : List Statement} (leave : StatementsLeave before s rest)
    (read : readStatements? fuel s = some statements) :
    ∃ fuel later, readStatements? fuel rest = some later ∧ statements = before ++ later := by
  induction leave generalizing fuel statements with
  | nil s => exact ⟨fuel, statements, read, rfl⟩
  | cons first ended _ ih =>
    cases fuel with
    | zero => cases read
    | succ fuel =>
      rw [readStatements?_succ first ended] at read
      obtain ⟨statements, readRest, rfl⟩ := Option.map_eq_some_iff.mp read
      obtain ⟨fuel, later, readLater, rfl⟩ := ih readRest
      exact ⟨fuel, later, readLater, rfl⟩

/-! ### Pairs -/

/-- What the first pairs in an inline table leave of its text, each up to the comma after it. -/
inductive PairsLeave (depth : Nat) : List (Key × Node) → List Char → List Char → Prop where
  | nil (s : List Char) : PairsLeave depth [] s s
  | cons {key value pairs fuel s v t u rest} (named : key? s = some (key, '=' :: v))
      (read : readValue? fuel depth (skipBlanks v) = some (value, t)) (comma : skipBlanks t = ',' :: u)
      (leave : PairsLeave depth pairs u rest) : PairsLeave depth ((key, value) :: pairs) s rest

variable {key : Key} {v last : List Char} {pairs : List (Key × Node)}

theorem key?_skipBlanks (s : List Char) : key? (skipBlanks s) = key? s := by
  have again : skipBlanks (skipBlanks s) = skipBlanks s := List.dropWhile_idempotent ..
  rw [key?, key?, Key.maxParts, keyWithin?, keyWithin?, again]

theorem readPair?_skipBlanks (s : List Char) : readPair? fuel depth (skipBlanks s) = readPair? fuel depth s := by
  cases fuel with
  | zero => rw [readPair?, readPair?]
  | succ fuel => rw [readPair?, readPair?, key?_skipBlanks]

/-- The pairs that are read from a key on: the value of this key, and then either the end of the table or more pairs. -/
theorem readPair?_cases (named : key? s = some (key, '=' :: v)) (read : readPair? fuel depth s = some (pairs, last)) :
    ∃ fuel value t, readValue? fuel depth (skipBlanks v) = some (value, t) ∧
      (skipBlanks t = '\x7d' :: last ∧ pairs = [(key, value)] ∨
        ∃ u later, skipBlanks t = ',' :: u ∧ readPair? fuel depth u = some (later, last) ∧
          pairs = (key, value) :: later) := by
  cases fuel with
  | zero => simp [readPair?] at read
  | succ fuel =>
    rw [readPair?, named] at read
    simp only [Option.bind_eq_bind, Option.bind_some] at read
    obtain ⟨⟨value, t⟩, found, made⟩ := Option.bind_eq_some_iff.mp read
    refine ⟨fuel, value, t, found, ?_⟩
    dsimp only at made
    split at made
    · rename_i closed
      cases made
      exact .inl ⟨closed, rfl⟩
    · rename_i u comma
      obtain ⟨⟨later, rest⟩, more, ⟨⟩⟩ := Option.bind_eq_some_iff.mp made
      exact .inr ⟨u, later, comma, more, rfl⟩
    · cases made

/-- The pairs of an inline table are its first ones and those of what they leave. -/
theorem readPair?_append {before : List (Key × Node)} (leave : PairsLeave depth before s rest)
    (read : readPair? fuel depth s = some (pairs, last)) :
    ∃ fuel later, readPair? fuel depth rest = some (later, last) ∧ pairs = before ++ later := by
  induction leave generalizing fuel pairs with
  | nil s => exact ⟨fuel, pairs, read, rfl⟩
  | cons named found comma _ ih =>
    obtain ⟨fuel, value, t, again, next⟩ := readPair?_cases named read
    cases readValue?_unique found again
    rcases next with ⟨closed, -⟩ | ⟨u, later, comma', more, rfl⟩
    · cases comma.symm.trans closed
    · cases comma.symm.trans comma'
      obtain ⟨fuel, later, readLater, rfl⟩ := ih more
      exact ⟨fuel, later, readLater, rfl⟩

theorem AssignsDecimal.readPair? {k : Nat} {e : List Char} (assigns : AssignsDecimal key k s e) (small : k < int64Bound)
    (ends : EndsInteger e) (read : readPair? fuel depth s = some (pairs, last)) :
    ∃ later, pairs = (key, .number (.integer k)) :: later := by
  obtain ⟨named, decimal⟩ := assigns
  obtain ⟨fuel, value, t, found, next⟩ := readPair?_cases named read
  rw [decimal] at found
  cases readValue?_unique found (readValue?_decimal ends 0 depth small)
  rcases next with ⟨-, rfl⟩ | ⟨_, later, -, -, rfl⟩
  · exact ⟨[], rfl⟩
  · exact ⟨later, rfl⟩

/-- The integer that is assigned last in an inline table is read. -/
theorem AssignsDecimal.readPair?_last {k : Nat} {e : List Char} (assigns : AssignsDecimal key k s e)
    (small : k < int64Bound) (closed : skipBlanks e = '\x7d' :: last) :
    Toml.readPair? (fuel + 2) depth s = some ([(key, .number (.integer k))], last) := by
  have ends : EndsInteger e := endsInteger_of_skipBlanks fun c first => by
    rw [closed] at first
    cases first
    decide
  obtain ⟨named, decimal⟩ := assigns
  rw [Toml.readPair?, named]
  simp [decimal, readValue?_decimal ends _ _ small, closed]

/-- An inline table with a key is not empty, and is read as pairs. -/
theorem readPairs?_of_key? {found : Key × List Char} (named : key? s = some found)
    (read : readPairs? fuel depth s = some (pairs, last)) : ∃ fuel, readPair? fuel depth s = some (pairs, last) := by
  cases fuel with
  | zero => simp [readPairs?] at read
  | succ fuel =>
    rw [readPairs?] at read
    split at read
    · rename_i closed
      rw [← key?_skipBlanks, closed] at named
      cases named
    · exact ⟨fuel, (readPair?_skipBlanks s).symm.trans read⟩

theorem PairsLeave.head {before : List (Key × Node)} {found : Key × List Char} (leave : PairsLeave depth before s rest)
    (named : key? rest = some found) : ∃ found, key? s = some found := by
  cases leave with
  | nil => exact ⟨found, named⟩
  | cons named => exact ⟨_, named⟩

/-- An integer that is assigned within an inline table is among the pairs that are read. -/
theorem readPairs?_decimal {before : List (Key × Node)} {k : Nat} {e : List Char}
    (leave : PairsLeave depth before s rest) (assigns : AssignsDecimal key k rest e) (small : k < int64Bound)
    (ends : EndsInteger e) (read : readPairs? fuel depth s = some (pairs, last)) :
    ∃ later, pairs = before ++ (key, .number (.integer k)) :: later := by
  obtain ⟨_, named⟩ := assigns.key?
  obtain ⟨_, first⟩ := leave.head named
  obtain ⟨_, readFirst⟩ := readPairs?_of_key? first read
  obtain ⟨_, later, readLater, rfl⟩ := readPair?_append leave readFirst
  obtain ⟨later, rfl⟩ := assigns.readPair? small ends readLater
  exact ⟨later, rfl⟩

end Adjudication.Toml
