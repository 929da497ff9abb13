import Adjudication.Bounds
import Adjudication.Mismatch
import Adjudication.Toml.Document

/-!
# Decoding TOML

Typed readings of the nodes of a document.
-/

namespace Adjudication.Toml

abbrev Decoder (α : Type) := Node → Except DecodeError α

/-- What a node is found to be; a date or a time passes for a map. -/
def Node.found : Node → Found
  | .boolean value => .boolean value
  | .number (.integer value) => .integer value
  | .number (.float value) => .float value
  | .string value => .string value
  | .array _ => .sequence
  | .tables _ _ => .sequence
  | .table _ _ => .map
  | .moment => .map

def unexpected {α : Type} (wanted : String) (node : Node) : Except DecodeError α :=
  .error (.mismatch (.invalidType node.found wanted))

def Decoder.uint32 : Decoder UInt32
  | .number (.integer k) =>
    match uint32OfInt? k with
    | some n => .ok n
    | none => .error (.mismatch (.invalidValue (.integer k) "u32"))
  | node => unexpected "u32" node

/-- A record that has one field, or its default if the field is left out. It may be written as a table with named
entries or as an array that starts with the field; entries that are not known and further items are skipped. -/
def Decoder.single {α β : Type} (record field : String) (default : α) (ofField : β → α) (read : Decoder β) :
    Decoder α
  | .table _ entries => ofEntry? (entries.lookup field)
  | .moment => .ok default
  | .array items => ofEntry? items.head?
  | .tables last earlier => ofEntry? (some (.table .header (earlier.getLast?.getD last)))
  | node => unexpected ("struct " ++ record) node
where
  ofEntry? : Option Node → Except DecodeError α
    | none => .ok default
    | some node => return ofField (← read node)

/-- Floating-point numbers in messages have no exponent, and a tie between two shortest decimals goes up. -/
def floatStyle : Decimal.FloatStyle := ⟨none, .up⟩

end Adjudication.Toml
