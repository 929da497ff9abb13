import Adjudication.Json.Reader

/-!
# Decoding JSON

Typed readings of a tree. A reading walks the tree in reading order and stops at the first thing that is wrong,
be it that the text is broken there or that the data is not what was asked for.

A record may be written as an object with named members or as an array of its fields in order; an enumeration as
a string or as an object whose one member has the name of the variant and the value null. Members that are not
known are skipped, whatever well-formed value they have.
-/

namespace Adjudication.Json

abbrev Decoder (α : Type) := Tree → Except DecodeError α

def mismatch {α : Type} (m : Mismatch) : Except DecodeError α := .error (.mismatch m)

def Tree.found : Decoder Found
  | .null => .ok .null
  | .boolean value => .ok (.boolean value)
  | .number spelling =>
    match spelling.found? with
    | some found => .ok found
    | none => .error .malformed
  | .string (some text) => .ok (.string text)
  | .string none => .error .malformed
  | .array _ => .ok .sequence
  | .object _ => .ok .map
  | .broken => .error .malformed

def unexpected {α : Type} (wanted : String) (tree : Tree) : Except DecodeError α :=
  match tree.found with
  | .ok found => mismatch (.invalidType found wanted)
  | .error e => .error e

namespace Decoder

def string : Decoder String
  | .string (some text) => .ok text
  | tree => unexpected "a string" tree

def boolean : Decoder Bool
  | .boolean value => .ok value
  | tree => unexpected "a boolean" tree

def unit : Decoder Unit
  | .null => .ok ()
  | tree => unexpected "unit" tree

def uint32 : Decoder UInt32
  | .number spelling =>
    match spelling.integer? with
    | some k =>
      match uint32OfInt? k with
      | some n => .ok n
      | none => mismatch (.invalidValue (.integer k) "u32")
    | none => unexpected "u32" (.number spelling)
  | tree => unexpected "u32" tree

def items {α : Type} (item : Decoder α) : Items → Except DecodeError (List α)
  | .close => .ok []
  | .item tree rest => do
    let a ← item tree
    let as ← items item rest
    pure (a :: as)
  | .broken => .error .malformed

def list {α : Type} (item : Decoder α) : Decoder (List α)
  | .array xs => items item xs
  | tree => unexpected "a sequence" tree

/-! ### Enumerations -/

def variant {α : Type} (variants : List (String × α)) (name : String) : Except DecodeError α :=
  match variants.lookup name with
  | some a => .ok a
  | none => mismatch (.unknownVariant name (variants.map Prod.fst))

def enum {α : Type} (variants : List (String × α)) : Decoder α
  | .string (some name) => variant variants name
  | .object (.member (some name) value rest) => do
    let a ← variant variants name
    unit value
    match rest with
    | .close => pure a
    | _ => .error .malformed
  | _ => .error .malformed

end Decoder

/-! ### Records -/

/-- A field of a record of which `δ` holds what is known so far. -/
structure Field (δ : Type) where
  name : String
  required : Bool
  isKnown : δ → Bool
  read : Tree → δ → Except DecodeError δ

structure Record (δ α : Type) where
  name : String
  fields : List (Field δ)
  start : δ
  finish : δ → Except DecodeError α

namespace Record

variable {δ α : Type}

def wanted (record : Record δ α) : String := "struct " ++ record.name

def wantedLength (record : Record δ α) : String :=
  record.wanted ++ " with " ++ toString record.fields.length ++
    (if record.fields.length = 1 then " element" else " elements")

def readMembers (record : Record δ α) : Members → δ → Except DecodeError δ
  | .close, known => .ok known
  | .broken, _ => .error .malformed
  | .member none _ _, _ => .error .malformed
  | .member (some key) value rest, known =>
    match record.fields.find? (·.name == key) with
    | some field =>
      if field.isKnown known then mismatch (.duplicateField key)
      else do record.readMembers rest (← field.read value known)
    | none => if value.isWhole then record.readMembers rest known else .error .malformed

/-- Takes the items of an array for the fields in order, from the one at `index` on. -/
def readItems (record : Record δ α) : List (Field δ) → (index : Nat) → Items → δ → Except DecodeError δ
  | _, _, .broken, _ => .error .malformed
  | [], _, .close, known => .ok known
  | [], _, .item _ _, _ => .error .malformed
  | field :: fields, index, .close, known =>
    if field.required then mismatch (.invalidLength index record.wantedLength)
    else record.readItems fields (index + 1) .close known
  | field :: fields, index, .item tree rest, known => do
    record.readItems fields (index + 1) rest (← field.read tree known)

def decode (record : Record δ α) : Decoder α
  | .object members => do record.finish (← record.readMembers members record.start)
  | .array items => do record.finish (← record.readItems record.fields 0 items record.start)
  | tree => unexpected record.wanted tree

end Record

/-- A whole text, by the given reading; only blanks may follow the value. -/
def decodeText {α : Type} (decoder : Decoder α) (text : String) : Except DecodeError α := do
  let document := Document.ofString text
  let a ← decoder document.tree
  if document.ends then pure a else .error .malformed

/-- Floating-point numbers in messages have an exponent from ten to the sixteenth on, and below ten to the minus
fifth, and a tie between two shortest decimals goes to the even one. -/
def floatStyle : Decimal.FloatStyle := ⟨some (-5, 15), .toEven⟩

end Adjudication.Json
