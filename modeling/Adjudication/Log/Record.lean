import Adjudication.Event

/-!
# Log records

What is told to whoever runs the program: a message of some level from some part of the program, with named
fields.
-/

namespace Adjudication

structure LogRecord where
  level : Level
  target : String
  message : String
  fields : List (String × String)
  deriving DecidableEq, Repr

def FieldValue.render : FieldValue → String
  | .flag value => toString value
  | .count value => toString value
  | .text value => value

namespace LogRecord

/-- A character of a message; the controls that a terminal would obey are written as escapes. -/
def messageChar (c : Char) : String :=
  if c = '\x07' then "\\x07"
  else if c = '\x08' then "\\x08"
  else if c = '\x0c' then "\\x0c"
  else if c = '\x1b' then "\\x1b"
  else if c = '\x7f' then "\\x7f"
  else if 0x80 ≤ c.toNat && c.toNat ≤ 0x9f then "\\u\x7b" ++ String.ofList (Nat.toDigits 16 c.toNat) ++ "\x7d"
  else c.toString

def line (record : LogRecord) : String :=
  String.intercalate " " (record.level.name :: String.join (record.message.toList.map messageChar) ::
    record.fields.map fun (name, value) => name ++ "=" ++ value)

end LogRecord

end Adjudication
