import Adjudication.Toml.Reader

/-!
# TOML documents

A document is its root table. Each header opens a section of assignments, which goes into the document as one
table.
-/

namespace Adjudication.Toml

/-- The assignments under one header, which is for one of many tables or for a single one. -/
structure Section where
  many : Bool
  key : Key
  assignments : List (Key × Node)

def Section.ofStatements : List Statement → List (Key × Node) × List Section
  | [] => ([], [])
  | .assignment key value :: rest =>
    let (assignments, sections) := ofStatements rest
    ((key, value) :: assignments, sections)
  | .header many key :: rest =>
    let (assignments, sections) := ofStatements rest
    ([], ⟨many, key, assignments⟩ :: sections)

/-- Adds a section to the entries of the table that is to hold it. A single table may have been made on the path of
a header before, but not in any other way. -/
def Section.addTo (s : Section) (entries : Entries) : Option Entries :=
  if s.many then do
    let content ← Entries.assignAll .header s.assignments []
    match entries.lookup s.key.name with
    | none => pure (entries.put s.key.name (.tables content []))
    | some (.tables last earlier) => pure (entries.put s.key.name (.tables content (last :: earlier)))
    | some _ => none
  else
    match entries.lookup s.key.name with
    | none => return entries.put s.key.name (.table .header (← Entries.assignAll .header s.assignments []))
    | some (.table .path present) =>
      return entries.put s.key.name (.table .header (← Entries.assignAll .header s.assignments present))
    | some _ => none

def Section.addToRoot (entries : Entries) (s : Section) : Option Entries :=
  Entries.changeAt .path (fun _ entries => s.addTo entries) s.key.path .header entries

/-- The entries of the root of a document; `none` if the text is malformed or says something twice. -/
def document? (text : String) : Option Entries := do
  let (assignments, sections) := Section.ofStatements (← statements? text.toList)
  sections.foldlM Section.addToRoot (← Entries.assignAll .header assignments [])

end Adjudication.Toml
