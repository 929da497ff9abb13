/-!
# JSON as it is written

Values and their two written forms: compact, and pretty with two blanks for each level.
-/

namespace Adjudication.Json

/-- A value to be written; an object has its members in order. -/
inductive Value where
  | null
  | boolean (value : Bool)
  | number (value : Nat)
  | string (value : String)
  | array (items : List Value)
  | object (members : List (String × Value))

def escapeChar (c : Char) : List Char :=
  if c = '"' then ['\\', '"']
  else if c = '\\' then ['\\', '\\']
  else if c = '\x08' then ['\\', 'b']
  else if c = '\x0c' then ['\\', 'f']
  else if c = '\n' then ['\\', 'n']
  else if c = '\r' then ['\\', 'r']
  else if c = '\t' then ['\\', 't']
  else if c.toNat < 0x20 then
    ['\\', 'u', '0', '0', Nat.digitChar (c.toNat / 16), Nat.digitChar (c.toNat % 16)]
  else [c]

def writeString (s : String) : String := "\"" ++ String.ofList (s.toList.flatMap escapeChar) ++ "\""

namespace Value

mutual

def compact : Value → String
  | .null => "null"
  | .boolean value => toString value
  | .number value => toString value
  | .string value => writeString value
  | .array items => "[" ++ String.intercalate "," (compactItems items) ++ "]"
  | .object members => "\x7b" ++ String.intercalate "," (compactMembers members) ++ "\x7d"

def compactItems : List Value → List String
  | [] => []
  | item :: items => item.compact :: compactItems items

def compactMembers : List (String × Value) → List String
  | [] => []
  | (key, value) :: members => (writeString key ++ ":" ++ value.compact) :: compactMembers members

end

def newLine (level : Nat) : String := "\n" ++ String.ofList (List.replicate (2 * level) ' ')

def block (level : Nat) (opening closing : String) (parts : List String) : String :=
  if parts.isEmpty then opening ++ closing
  else
    opening ++ newLine (level + 1) ++ String.intercalate ("," ++ newLine (level + 1)) parts ++
      newLine level ++ closing

mutual

def prettyAt (level : Nat) : Value → String
  | .array items => block level "[" "]" (prettyItems (level + 1) items)
  | .object members => block level "\x7b" "\x7d" (prettyMembers (level + 1) members)
  | .null => "null"
  | .boolean value => toString value
  | .number value => toString value
  | .string value => writeString value

def prettyItems (level : Nat) : List Value → List String
  | [] => []
  | item :: items => item.prettyAt level :: prettyItems level items

def prettyMembers (level : Nat) : List (String × Value) → List String
  | [] => []
  | (key, value) :: members =>
    (writeString key ++ ": " ++ value.prettyAt level) :: prettyMembers level members

end

def pretty (value : Value) : String := value.prettyAt 0

end Value

end Adjudication.Json
