import Adjudication.Json.Lexer
import Adjudication.Json.Tree

/-!
# Reading JSON

Reads a text into a tree. Each reader also returns what is left of the text, or `none` once the text is broken.
Of three calls in a row at least one takes a character off the text, so three times its length is fuel enough.
-/

namespace Adjudication.Json

mutual

def readTree : (fuel : Nat) → List Char → Tree × Option (List Char)
  | 0, _ => (.broken, none)
  | fuel + 1, s =>
    match skipBlanks s with
    | 'n' :: rest => readWord ['u', 'l', 'l'] .null rest
    | 't' :: rest => readWord ['r', 'u', 'e'] (.boolean true) rest
    | 'f' :: rest => readWord ['a', 'l', 's', 'e'] (.boolean false) rest
    | '"' :: rest =>
      match string? rest with
      | some (text, rest) => (.string text, some rest)
      | none => (.broken, none)
    | '[' :: rest =>
      let (items, rest) := readItems fuel rest
      (.array items, rest)
    | '{' :: rest =>
      let (members, rest) := readMembers fuel rest
      (.object members, rest)
    | '-' :: rest => readNumber true rest
    | rest => readNumber false rest
where
  readWord (word : List Char) (tree : Tree) (rest : List Char) : Tree × Option (List Char) :=
    match word.isPrefixOf? rest with
    | some rest => (tree, some rest)
    | none => (.broken, none)
  readNumber (negative : Bool) (rest : List Char) : Tree × Option (List Char) :=
    match number? negative rest with
    | some (spelling, rest) => (.number spelling, some rest)
    | none => (.broken, none)

def readItems : (fuel : Nat) → List Char → Items × Option (List Char)
  | 0, _ => (.broken, none)
  | fuel + 1, s =>
    match skipBlanks s with
    | ']' :: rest => (.close, some rest)
    | rest => readItem fuel rest

def readItem : (fuel : Nat) → List Char → Items × Option (List Char)
  | 0, _ => (.broken, none)
  | fuel + 1, s =>
    match readTree fuel s with
    | (tree, none) => (.item tree .broken, none)
    | (tree, some rest) =>
      match skipBlanks rest with
      | ']' :: rest => (.item tree .close, some rest)
      | ',' :: rest =>
        let (items, rest) := readItem fuel rest
        (.item tree items, rest)
      | _ => (.item tree .broken, none)

def readMembers : (fuel : Nat) → List Char → Members × Option (List Char)
  | 0, _ => (.broken, none)
  | fuel + 1, s =>
    match skipBlanks s with
    | '}' :: rest => (.close, some rest)
    | rest => readMember fuel rest

def readMember : (fuel : Nat) → List Char → Members × Option (List Char)
  | 0, _ => (.broken, none)
  | fuel + 1, s =>
    match skipBlanks s with
    | '"' :: rest =>
      match string? rest with
      | none => (.broken, none)
      | some (key, rest) =>
        match skipBlanks rest with
        | ':' :: rest =>
          match readTree fuel rest with
          | (value, none) => (.member key value .broken, none)
          | (value, some rest) =>
            match skipBlanks rest with
            | '}' :: rest => (.member key value .close, some rest)
            | ',' :: rest =>
              let (members, rest) := readMember fuel rest
              (.member key value members, rest)
            | _ => (.member key value .broken, none)
        | _ => (.member key .broken .broken, none)
    | _ => (.broken, none)

end

def Tree.ofChars (s : List Char) : Tree × Option (List Char) := readTree (3 * s.length + 3) s

def Document.ofString (s : String) : Document :=
  match Tree.ofChars s.toList with
  | (tree, some rest) => ⟨tree, (skipBlanks rest).isEmpty⟩
  | (tree, none) => ⟨tree, false⟩

end Adjudication.Json
