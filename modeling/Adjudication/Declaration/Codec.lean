import Adjudication.Declaration.Basic
import Adjudication.Json.Decode
import Adjudication.Json.Value

/-!
# Stored declarations

Declarations as JSON. Modifiers are left out when there are none and are none when left out; a declaration has
a primary constructor unless it says otherwise.
-/

namespace Adjudication

open Json

/-- The kinds of declarations by their stored names. -/
def DeclarationKind.variants : List (String × DeclarationKind) := [
  ("class", .plainClass), ("interface", .interface), ("object", .object), ("enum_class", .enumClass),
  ("annotation_class", .annotationClass)]

/-- The modifiers by their stored names. -/
def Modifier.variants : List (String × Modifier) := [
  ("data", .data), ("abstract", .abstract), ("sealed", .sealed), ("open", .opened), ("inner", .inner),
  ("value", .value)]

/-- The reasons by their stored names. -/
def Reason.variants : List (String × Reason) := [
  ("not_a_class", .notAClass), ("abstract", .abstract), ("not_data_class", .notDataClass),
  ("no_primary_constructor", .noPrimaryConstructor)]

def DeclarationKind.name : DeclarationKind → String
  | .plainClass => "class"
  | .interface => "interface"
  | .object => "object"
  | .enumClass => "enum_class"
  | .annotationClass => "annotation_class"

def Modifier.name : Modifier → String
  | .data => "data"
  | .abstract => "abstract"
  | .sealed => "sealed"
  | .opened => "open"
  | .inner => "inner"
  | .value => "value"

def Reason.name : Reason → String
  | .notAClass => "not_a_class"
  | .abstract => "abstract"
  | .notDataClass => "not_data_class"
  | .noPrimaryConstructor => "no_primary_constructor"

theorem DeclarationKind.lookup_name (kind : DeclarationKind) : variants.lookup kind.name = some kind := by
  cases kind <;> rfl

theorem Modifier.lookup_name (modifier : Modifier) : variants.lookup modifier.name = some modifier := by
  cases modifier <;> rfl

def DeclarationKind.decoder : Decoder DeclarationKind := Decoder.enum variants

def Modifier.decoder : Decoder Modifier := Decoder.enum variants

def Reason.decoder : Decoder Reason := Decoder.enum variants

namespace Declaration

/-- The fields of a declaration that are known so far. -/
structure Draft where
  name : Option String := none
  kind : Option DeclarationKind := none
  modifiers : Option (List Modifier) := none
  hasPrimaryConstructor : Option Bool := none

def Draft.finish (draft : Draft) : Except DecodeError Declaration :=
  match draft.name, draft.kind with
  | none, _ => mismatch (.missingField "name")
  | some _, none => mismatch (.missingField "kind")
  | some name, some kind =>
    .ok ⟨name, kind, draft.modifiers.getD [], draft.hasPrimaryConstructor.getD true⟩

def record : Record Draft Declaration where
  name := "Declaration"
  start := {}
  finish := Draft.finish
  fields := [
    { name := "name", required := true, isKnown := (·.name.isSome)
      read := fun tree draft => do pure { draft with name := some (← Decoder.string tree) } },
    { name := "kind", required := true, isKnown := (·.kind.isSome)
      read := fun tree draft => do pure { draft with kind := some (← DeclarationKind.decoder tree) } },
    { name := "modifiers", required := false, isKnown := (·.modifiers.isSome)
      read := fun tree draft => do
        pure { draft with modifiers := some (← Decoder.list Modifier.decoder tree) } },
    { name := "has_primary_constructor", required := false, isKnown := (·.hasPrimaryConstructor.isSome)
      read := fun tree draft => do
        pure { draft with hasPrimaryConstructor := some (← Decoder.boolean tree) } }]

def decoder : Decoder Declaration := record.decode

def toJson (d : Declaration) : Value :=
  let modifiers :=
    if d.modifiers.isEmpty then [] else [("modifiers", Value.array (d.modifiers.map fun m => .string m.name))]
  .object ([("name", .string d.name), ("kind", .string d.kind.name)] ++ modifiers ++
    [("has_primary_constructor", .boolean d.hasPrimaryConstructor)])

end Declaration

def Declaration.ofText (text : String) : Except DecodeError Declaration :=
  decodeText Declaration.decoder text

def Declaration.listOfText (text : String) : Except DecodeError (List Declaration) :=
  decodeText (Decoder.list Declaration.decoder) text

def Declaration.listToJson (ds : List Declaration) : Value := .array (ds.map Declaration.toJson)

end Adjudication
