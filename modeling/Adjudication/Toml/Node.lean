import Adjudication.Toml.Lexer
import Adjudication.Toml.Number

/-!
# TOML nodes

The values and tables of a document. A table knows how it came to be, because that decides what may be added to
it: a dotted key must not reach into a table that has been written out, and a header must not open a table that
a dotted key has made.
-/

namespace Adjudication.Toml

inductive Origin where
  /-- By its own header. -/
  | header
  /-- On the path of a header. -/
  | path
  /-- On the path of a dotted key. -/
  | dotted
  | inline
  deriving DecidableEq, Repr

inductive Node where
  | boolean (value : Bool)
  | number (value : Number)
  | string (value : String)
  | moment
  | array (items : List Node)
  | table (origin : Origin) (entries : List (String × Node))
  /-- Tables under one name, the last one first. -/
  | tables (last : List (String × Node)) (earlier : List (List (String × Node)))

instance : Inhabited Node := ⟨.moment⟩

abbrev Entries := List (String × Node)

namespace Entries

def put (name : String) (node : Node) : Entries → Entries
  | [] => [(name, node)]
  | (other, present) :: rest =>
    if other = name then (name, node) :: rest else (other, present) :: put name node rest

theorem lookup_put (name other : String) (node : Node) (entries : Entries) :
    (entries.put name node).lookup other = if other = name then some node else entries.lookup other := by
  induction entries with
  | nil =>
    by_cases same : other = name
    · subst same; simp [put]
    · have other_ne : (other == name) = false := by simpa using same
      simp [put, List.lookup_cons, other_ne, same]
  | cons entry rest ih =>
    obtain ⟨present, value⟩ := entry
    by_cases there : other = present
    · subst there
      by_cases here : other = name
      · subst here; simp [put]
      · simp [put, here]
    · have there_ne : (other == present) = false := by simpa using there
      by_cases here : present = name
      · subst here
        simp [put, List.lookup_cons, there_ne, there]
      · simpa [put, here, List.lookup_cons, there_ne] using ih

/-- Changes the table at the end of a path. Tables that are missing on the way are made; through tables under one
name, the way leads into the last one. -/
def changeAt (made : Origin) (change : Origin → Entries → Option Entries) :
    List String → Origin → Entries → Option Entries
  | [], origin, entries => change origin entries
  | name :: path, _, entries =>
    match entries.lookup name with
    | none => (changeAt made change path made []).map fun inner => entries.put name (.table made inner)
    | some (.table origin inner) =>
      if origin = .inline || (origin = .header && made = .dotted) then none
      else (changeAt made change path origin inner).map fun inner => entries.put name (.table origin inner)
    | some (.tables last earlier) =>
      (changeAt made change path .header last).map fun last => entries.put name (.tables last earlier)
    | some _ => none

/-- Adds a value under a key. The last table on the way must be one that dotted keys make, and the name must be
new. -/
def assign (key : Key) (value : Node) : Origin → Entries → Option Entries :=
  changeAt .dotted (fun origin entries =>
    if decide (origin = .dotted) = key.path.isEmpty then none
    else if (entries.lookup key.name).isSome then none
    else some (entries.put key.name value)) key.path

def assignAll (origin : Origin) (assignments : List (Key × Node)) (entries : Entries) : Option Entries :=
  assignments.foldlM (fun entries (key, value) => assign key value origin entries) entries

end Entries

end Adjudication.Toml
