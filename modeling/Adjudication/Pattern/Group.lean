import Adjudication.Pattern.Basic
import Adjudication.Text.Alphanumeric

/-!
# Groups in patterns

What may follow the parenthesis that opens a group: a name, or flags for the group. Flags alone, between parentheses,
are no group; they change how the rest of the group around them is read.
-/

namespace Adjudication.Pattern

inductive Opening where
  | flags (mode : Mode)
  | group (mode : Mode) (name : Option (List Char))
  deriving Repr

def isNameStart (c : Char) : Bool := c = '_' || Text.isAlphabetic c

def isNamePart (c : Char) : Bool := c = '_' || c = '.' || c = '[' || c = ']' || Text.isAlphanumeric c

def groupName? (s : List Char) : Option (List Char × List Char) :=
  let name := s.takeWhile (· ≠ '>')
  match name, s.drop name.length with
  | c :: cs, '>' :: rest => if isNameStart c && cs.all isNamePart then some (name, rest) else none
  | _, _ => none

/-- Whether letters are flags: each is there once at most, and after the minus sign, if there is one, comes another. -/
def areFlags (letters : List Char) : Bool :=
  letters.all ['i', 'm', 's', 'U', 'u', 'R', 'x', '-'].contains &&
    letters.eraseDups.length = letters.length && letters.getLast? ≠ some '-'

/-- The mode with flags set, or cleared if they come after a minus sign. -/
def Mode.withFlags (mode : Mode) (letters : List Char) : Mode :=
  let on := letters.takeWhile (· ≠ '-')
  let state (flag : Char) (before : Bool) := if letters.contains flag then on.contains flag else before
  { unicode := state 'u' mode.unicode
    insensitive := state 'i' mode.insensitive
    verbose := state 'x' mode.verbose }

/-- Takes flags and what they are for off the front of a text, of which the question mark is gone. -/
def flags? (mode : Mode) (s : List Char) : Option (Opening × List Char) :=
  let letters := s.takeWhile fun c => c ≠ ':' && c ≠ ')'
  if !areFlags letters then none
  else
    match letters, s.drop letters.length with
    | _, ':' :: rest => some (.group (mode.withFlags letters) none, rest)
    | _ :: _, ')' :: rest => some (.flags (mode.withFlags letters), rest)
    | _, _ => none

/-- Takes what a parenthesis opens off the front of a text, of which the parenthesis is gone. -/
def opening? (mode : Mode) (s : List Char) : Option (Opening × List Char) :=
  match mode.skip s with
  | '?' :: 'P' :: '<' :: rest | '?' :: '<' :: rest =>
    (groupName? rest).map fun (name, rest) => (.group mode (some name), rest)
  | '?' :: rest => flags? mode rest
  | rest => some (.group mode none, rest)

end Adjudication.Pattern
