import Adjudication.Toml.Document
import Mathlib.Tactic.Cases

/-!
# Tables that keep their numbers

A document is put together by adding to tables, never by taking away: a number that stands at the end of a path of
tables stands there in all that is made of them. `Section.addToRoot_keeps` says so of whole sections.
-/

namespace Adjudication.Toml

/-- A number at the end of a path of names, each but the last of a table in the one before. -/
inductive HasNumber (n : Number) : List String → Entries → Prop where
  | here {name entries} (found : List.lookup name entries = some (.number n)) : HasNumber n [name] entries
  | inside {name path origin inner entries} (found : List.lookup name entries = some (.table origin inner))
      (has : HasNumber n path inner) : HasNumber n (name :: path) entries

/-- Entries that have each number of others, at the same path. -/
def Keeps (entries after : Entries) : Prop := ∀ n path, HasNumber n path entries → HasNumber n path after

variable {entries inner after : Entries} {name : String} {node : Node} {n : Number}

theorem Keeps.refl (entries : Entries) : Keeps entries entries := fun _ _ has => has

theorem Keeps.trans {a b c : Entries} (first : Keeps a b) (second : Keeps b c) : Keeps a c :=
  fun n path has => second n path (first n path has)

theorem Entries.lookup_put_self (name : String) (node : Node) (entries : Entries) :
    (entries.put name node).lookup name = some node := by
  rw [lookup_put, if_pos rfl]

/-- Another node under a name keeps all numbers, unless it takes away a number or what was in a table. -/
theorem Keeps.put (kept : ∀ present, entries.lookup name = some present →
      (∀ n, present ≠ .number n) ∧ ∀ origin inner, present = .table origin inner →
        ∃ origin' inner', node = .table origin' inner' ∧ Keeps inner inner') :
    Keeps entries (entries.put name node) := by
  intro n path has
  cases has with
  | @here other _ found =>
    refine .here ?_
    rw [Entries.lookup_put, if_neg, found]
    rintro rfl
    exact (kept _ found).1 n rfl
  | @inside other path origin inner _ found has =>
    by_cases same : other = name
    · subst same
      obtain ⟨origin', inner', rfl, keeps⟩ := (kept _ found).2 origin inner rfl
      exact .inside (Entries.lookup_put_self ..) (keeps n path has)
    · exact .inside (by rw [Entries.lookup_put, if_neg same, found]) has

theorem Keeps.put_new (missing : entries.lookup name = none) (node : Node) : Keeps entries (entries.put name node) :=
  .put fun present found => by simp [missing] at found

theorem Keeps.put_table {origin origin' : Origin} {inner' : Entries}
    (present : entries.lookup name = some (.table origin inner)) (keeps : Keeps inner inner') :
    Keeps entries (entries.put name (.table origin' inner')) := by
  refine .put fun node found => ?_
  rw [present] at found
  cases found
  refine ⟨nofun, ?_⟩
  rintro _ _ ⟨⟩
  exact ⟨_, _, rfl, keeps⟩

theorem Keeps.put_tables {last : Entries} {earlier : List Entries}
    (present : entries.lookup name = some (.tables last earlier)) (node : Node) :
    Keeps entries (entries.put name node) := by
  refine .put fun node found => ?_
  rw [present] at found
  cases found
  exact ⟨nofun, nofun⟩

/-- Steps that keep all numbers keep them together. -/
theorem Keeps.foldlM {α : Type} {step : Entries → α → Option Entries}
    (keeps : ∀ entries a after, step entries a = some after → Keeps entries after) {steps : List α}
    (made : steps.foldlM step entries = some after) : Keeps entries after := by
  induction steps generalizing entries with
  | nil =>
    cases made
    exact .refl _
  | cons a steps ih =>
    rw [List.foldlM_cons] at made
    obtain ⟨next, first, rest⟩ := Option.bind_eq_some_iff.mp made
    exact (keeps entries a next first).trans (ih rest)

namespace Entries

/-- A change of the table at the end of a path keeps all numbers if it keeps those of this table. -/
theorem changeAt_keeps {made : Origin} {change : Origin → Entries → Option Entries}
    (keeps : ∀ origin entries after, change origin entries = some after → Keeps entries after)
    {path : List String} {origin : Origin} (changed : changeAt made change path origin entries = some after) :
    Keeps entries after := by
  induction path generalizing origin entries after with
  | nil => exact keeps origin entries after changed
  | cons name path ih =>
    rw [changeAt] at changed
    split at changed
    · rename_i missing
      obtain ⟨inner, -, rfl⟩ := Option.map_eq_some_iff.mp changed
      exact .put_new missing _
    · rename_i present
      split at changed
      · cases changed
      · obtain ⟨inner, inside, rfl⟩ := Option.map_eq_some_iff.mp changed
        exact .put_table present (ih inside)
    · rename_i present
      obtain ⟨inner, -, rfl⟩ := Option.map_eq_some_iff.mp changed
      exact .put_tables present _
    · cases changed

/-- A value is added to the table at the end of the path of its key under a name that is new there. -/
theorem assign_eq_changeAt (key : Key) (value : Node) :
    ∃ change, assign key value = changeAt .dotted change key.path ∧ ∀ origin entries after,
      change origin entries = some after ↔ decide (origin = .dotted) ≠ key.path.isEmpty ∧
        entries.lookup key.name = none ∧ after = entries.put key.name value := by
  refine ⟨_, rfl, fun origin entries after => ?_⟩
  split
  · rename_i wrong
    simp [wrong]
  · rename_i right
    split
    · rename_i there
      simp [Option.ne_none_iff_isSome.mpr there]
    · rename_i missing
      simp [right, Option.not_isSome_iff_eq_none.mp missing, eq_comm]

theorem assign_keeps {key : Key} {value : Node} {origin : Origin}
    (assigned : assign key value origin entries = some after) : Keeps entries after := by
  obtain ⟨change, same, adds⟩ := assign_eq_changeAt key value
  rw [same] at assigned
  refine changeAt_keeps (fun origin entries after added => ?_) assigned
  obtain ⟨-, missing, rfl⟩ := (adds origin entries after).mp added
  exact .put_new missing value

theorem assignAll_cons {origin : Origin} {key : Key} {value : Node} {assignments : List (Key × Node)} :
    assignAll origin ((key, value) :: assignments) entries =
      (assign key value origin entries).bind (assignAll origin assignments) :=
  List.foldlM_cons ..

theorem assignAll_append {origin : Origin} {before later : List (Key × Node)} :
    assignAll origin (before ++ later) entries = (assignAll origin before entries).bind (assignAll origin later) :=
  List.foldlM_append ..

theorem assignAll_keeps {origin : Origin} {assignments : List (Key × Node)}
    (assigned : assignAll origin assignments entries = some after) : Keeps entries after :=
  .foldlM (fun _ _ _ => assign_keeps) assigned

/-! ### Where an assignment puts a number -/

/-- A key of one part is put into the entries themselves. -/
theorem assign_lookup {value : Node} {origin : Origin}
    (assigned : assign ⟨[], name⟩ value origin entries = some after) : after.lookup name = some value := by
  obtain ⟨change, same, adds⟩ := assign_eq_changeAt ⟨[], name⟩ value
  rw [same] at assigned
  obtain ⟨-, -, rfl⟩ := (adds origin entries after).mp assigned
  exact lookup_put_self ..

theorem assign_has {origin : Origin} (assigned : assign ⟨[], name⟩ (.number n) origin entries = some after) :
    HasNumber n [name] after :=
  .here (assign_lookup assigned)

/-- A dotted key of two parts leads into a table, and not into the last of several. -/
theorem assign_dotted_has {outer : String} {origin : Origin}
    (assigned : assign ⟨[outer], name⟩ (.number n) origin entries = some after) : HasNumber n [outer, name] after := by
  obtain ⟨change, same, adds⟩ := assign_eq_changeAt ⟨[outer], name⟩ (.number n)
  have into : ∀ made origin inner inner', change origin inner = some inner' →
      HasNumber n [outer, name] (entries.put outer (.table made inner')) := by
    intro made origin inner inner' added
    obtain ⟨-, -, rfl⟩ := (adds _ _ _).mp added
    exact .inside (lookup_put_self ..) (.here (lookup_put_self ..))
  rw [same, changeAt] at assigned
  split at assigned
  · obtain ⟨inner, added, rfl⟩ := Option.map_eq_some_iff.mp assigned
    exact into _ _ _ _ added
  · split at assigned
    · cases assigned
    · obtain ⟨inner, added, rfl⟩ := Option.map_eq_some_iff.mp assigned
      exact into _ _ _ _ added
  · obtain ⟨last, added, rfl⟩ := Option.map_eq_some_iff.mp assigned
    exact absurd rfl ((adds _ _ _).mp added).1
  · cases assigned

theorem assignAll_has {path : List String} {key : Key} {value : Node} {origin : Origin}
    {before later : List (Key × Node)}
    (puts : ∀ {entries after}, assign key value origin entries = some after → HasNumber n path after)
    (assigned : assignAll origin (before ++ (key, value) :: later) entries = some after) : HasNumber n path after := by
  rw [assignAll_append] at assigned
  obtain ⟨_, -, assigned⟩ := Option.bind_eq_some_iff.mp assigned
  rw [assignAll_cons] at assigned
  obtain ⟨_, first, rest⟩ := Option.bind_eq_some_iff.mp assigned
  exact assignAll_keeps rest _ _ (puts first)

end Entries

/-! ### Sections -/

namespace Section

theorem addTo_keeps {s : Section} (added : s.addTo entries = some after) : Keeps entries after := by
  rw [addTo] at added
  split at added
  · obtain ⟨content, -, put⟩ := Option.bind_eq_some_iff.mp added
    split at put <;> cases put
    · rename_i missing
      exact .put_new missing _
    · rename_i present
      exact .put_tables present _
  · split at added
    · rename_i missing
      obtain ⟨content, -, ⟨⟩⟩ := Option.bind_eq_some_iff.mp added
      exact .put_new missing _
    · rename_i present
      obtain ⟨content, assigned, ⟨⟩⟩ := Option.bind_eq_some_iff.mp added
      exact .put_table present (Entries.assignAll_keeps assigned)
    · cases added

theorem addToRoot_keeps {s : Section} (added : addToRoot entries s = some after) : Keeps entries after :=
  Entries.changeAt_keeps (fun _ _ _ changed => addTo_keeps changed) added

theorem addAll_keeps {sections : List Section} (added : sections.foldlM addToRoot entries = some after) :
    Keeps entries after :=
  .foldlM (fun _ _ _ => addToRoot_keeps) added

/-- The section of a single table has the numbers of its assignments. -/
theorem addToRoot_has {assignments : List (Key × Node)} {path : List String}
    (puts : ∀ {present content},
      Entries.assignAll .header assignments present = some content → HasNumber n path content)
    (added : addToRoot entries ⟨false, ⟨[], name⟩, assignments⟩ = some after) : HasNumber n (name :: path) after := by
  rw [addToRoot, Entries.changeAt, addTo] at added
  simp only [Bool.false_eq_true, if_false] at added
  split at added
  · obtain ⟨content, assigned, ⟨⟩⟩ := Option.bind_eq_some_iff.mp added
    exact .inside (Entries.lookup_put_self ..) (puts assigned)
  · obtain ⟨content, assigned, ⟨⟩⟩ := Option.bind_eq_some_iff.mp added
    exact .inside (Entries.lookup_put_self ..) (puts assigned)
  · cases added

end Section

end Adjudication.Toml
