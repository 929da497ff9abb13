/-!
# Terminal sequences

A text may hold sequences that a terminal obeys and does not show: an escape character and what belongs to it.
`plain` is what is left of a text where no terminal obeys them: it has no sequences and no control characters other
than white space. White space within a sequence is shown and suspends it; a control character resumes it.
-/

namespace Adjudication.Text.Terminal

inductive Sequence where
  /-- An escape character. -/
  | escape
  | intermediate
  /-- A control sequence, which ends with a letter or the like. -/
  | control
  /-- The start of a device string. -/
  | device
  /-- The parameters of a device string. -/
  | deviceParameters
  /-- The intermediate characters of a device string. -/
  | deviceIntermediate
  /-- A string for a device, for an application or for nobody. -/
  | string
  /-- A command for the operating system, which a bell ends too. -/
  | command
  deriving DecidableEq, Repr

inductive State where
  /-- At characters to show; a sequence may be suspended. -/
  | text (suspended : Option Sequence)
  | within (sequence : Sequence)
  deriving DecidableEq, Repr

def isBlankControl (c : Char) : Bool := c = '\t' || c = '\n' || c = '\x0c' || c = '\r'

def isShown (c : Char) : Bool := isBlankControl c || (0x20 ≤ c.toNat && c.toNat ≠ 0x7f)

/-- Whether the bytes of a character hold the one that ends a string. -/
def holdsTerminator (c : Char) : Bool := (String.utf8EncodeChar c).contains 0x9c

def Sequence.graphic (sequence : Sequence) (c : Char) : State :=
  match sequence with
  | .escape =>
    if c.toNat < 0x30 then .within .intermediate
    else
      match c with
      | '[' => .within .control
      | ']' => .within .command
      | 'P' => .within .device
      | 'X' | '^' | '_' => .within .string
      | _ => .text none
  | .intermediate => if c.toNat < 0x30 then .within .intermediate else .text none
  | .control => if c.toNat < 0x40 then .within .control else .text none
  | .device =>
    .within (if c.toNat < 0x30 then .deviceIntermediate else if c.toNat < 0x40 then .deviceParameters else .string)
  | .deviceParameters =>
    .within (if c.toNat < 0x30 then .deviceIntermediate else if c.toNat < 0x3c then .deviceParameters else .string)
  | .deviceIntermediate => .within (if c.toNat < 0x30 then .deviceIntermediate else .string)
  | .string => .within .string
  | .command => .within .command

/-- Takes a character of a sequence, and says whether it is shown. An escape character is none of them, nor is one
that cancels the sequence. -/
def Sequence.step (sequence : Sequence) (c : Char) : State × Bool :=
  if 0x20 ≤ c.toNat && c.toNat < 0x7f then (sequence.graphic c, false)
  else
    match sequence with
    | .device | .deviceParameters | .deviceIntermediate => (.within sequence, false)
    | .string => (if holdsTerminator c then .text none else .within .string, false)
    | .command => (if c = '\x07' then .text none else .within .command, false)
    | _ => if isBlankControl c then (.text (some sequence), true) else (.within sequence, false)

/-- Takes a character of a text, and says whether it is shown. -/
def State.step (state : State) (c : Char) : State × Bool :=
  if c = '\x1b' then (.within .escape, false)
  else if c = '\x18' || c = '\x1a' then (.text none, false)
  else
    match state with
    | .within sequence => sequence.step c
    | .text none => (.text none, isShown c)
    | .text (some sequence) =>
      if !isShown c then (.within sequence, false)
      else (if c.toNat < 0x80 then .text (some sequence) else .text none, true)

def shown : State → List Char → List Char
  | _, [] => []
  | state, c :: rest =>
    let (state, isKept) := state.step c
    if isKept then c :: shown state rest else shown state rest

def plain (text : String) : String := String.ofList (shown (.text none) text.toList)

def bold (text : String) : String := "\x1b[1m" ++ text ++ "\x1b[0m"

end Adjudication.Text.Terminal
