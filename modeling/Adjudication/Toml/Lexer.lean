import Adjudication.Text.Digits

/-!
# TOML tokens

Blanks, comments, line ends, strings and keys at the front of a text. Each reader returns what is left of the
text.
-/

namespace Adjudication.Toml

def isBlank (c : Char) : Bool := c = ' ' || c = '\t'

def skipBlanks (s : List Char) : List Char := s.dropWhile isBlank

/-- The characters that stand for themselves in comments and strings: no control but the tabulator. -/
def isPlain (c : Char) : Bool := c = '\t' || (0x20 ≤ c.toNat && c.toNat ≠ 0x7f)

def lineEnd? : List Char → Option (List Char)
  | '\n' :: rest => some rest
  | '\r' :: '\n' :: rest => some rest
  | _ => none

/-- A comment, if there is one, up to the end of its line. -/
def skipComment : List Char → List Char
  | '#' :: rest => rest.dropWhile isPlain
  | s => s

/-- The end of a statement: blanks and a comment up to the end of the line or of the text. -/
def statementEnd? (s : List Char) : Option (List Char) :=
  match skipComment (skipBlanks s) with
  | [] => some []
  | rest => lineEnd? rest

/-- Drops blanks, comments and line ends. Inside a comment only plain characters are dropped. -/
def skipLines (inComment : Bool) : List Char → List Char
  | [] => []
  | '\r' :: '\n' :: rest => skipLines false rest
  | c :: rest =>
    if c = '\n' then skipLines false rest
    else if inComment then
      if isPlain c then skipLines true rest else c :: rest
    else if isBlank c then skipLines false rest
    else if c = '#' then skipLines true rest
    else c :: rest

/-! ### Strings -/

/-- The quotes that close a string, taken off the front of a text. A string of many lines is closed by three
quotes, and up to two before them belong to it. -/
def close? (quote : Char) (many : Bool) (s : List Char) : Option (List Char × List Char) :=
  let quotes := (s.takeWhile (· = quote)).length
  if many then
    if quotes < 3 then none
    else
      let own := min 2 (quotes - 3)
      some (List.replicate own quote, s.drop (own + 3))
  else if quotes = 0 then none
  else some ([], s.drop 1)

def startsWithFeed : List Char → Bool
  | '\n' :: _ => true
  | _ => false

def literal? (many : Bool) : List Char → Option (List Char × List Char)
  | [] => none
  | c :: rest =>
    match close? '\x27' many (c :: rest) with
    | some found => some found
    | none =>
      if c = '\r' then if many && startsWithFeed rest then literal? many rest else none
      else if (c = '\n' && many) || isPlain c then
        (literal? many rest).map fun (text, rest) => (c :: text, rest)
      else none

def escaped? : Char → Option Char
  | 'b' => some '\x08'
  | 'f' => some '\x0c'
  | 'n' => some '\n'
  | 'r' => some '\r'
  | 't' => some '\t'
  | '"' => some '"'
  | '\\' => some '\\'
  | _ => none

/-- The character with a code point, if it has one. -/
def charOfCode? (code : Nat) : Option Char := if code.isValidChar then some (Char.ofNat code) else none

inductive Spot where
  /-- Between characters; blanks and line ends are dropped while `trimming`. -/
  | between (trimming : Bool)
  /-- After a backslash. -/
  | escape
  /-- After a backslash and blanks, where only the end of a line may follow. -/
  | continuation
  /-- In an escape of which `left + 1` digits are to come. -/
  | code (left value : Nat)

def basic? (many : Bool) : Spot → List Char → Option (List Char × List Char)
  | _, [] => none
  | .between trimming, c :: rest =>
    match close? '"' many (c :: rest) with
    | some found => some found
    | none =>
      if c = '\\' then basic? many .escape rest
      else if c = '\r' then
        if many && startsWithFeed rest then basic? many (.between trimming) rest else none
      else if trimming && (c = '\n' || isBlank c) then basic? many (.between true) rest
      else if (c = '\n' && many) || isPlain c then char c (basic? many (.between false) rest)
      else none
  | .escape, c :: rest =>
    if c = 'u' then basic? many (.code 3 0) rest
    else if c = 'U' then basic? many (.code 7 0) rest
    else if many && c = '\n' then basic? many (.between true) rest
    else if many && (isBlank c || c = '\r' && startsWithFeed rest) then basic? many .continuation rest
    else
      match escaped? c with
      | some e => char e (basic? many (.between false) rest)
      | none => none
  | .continuation, c :: rest =>
    if c = '\n' then basic? many (.between true) rest
    else if isBlank c || c = '\r' && startsWithFeed rest then basic? many .continuation rest
    else none
  | .code left value, c :: rest =>
    match Text.digitValue? c with
    | none => none
    | some digit =>
      let value := 16 * value + digit
      match left with
      | left + 1 => basic? many (.code left value) rest
      | 0 =>
        match charOfCode? value with
        | some e => char e (basic? many (.between false) rest)
        | none => none
where
  char (c : Char) (found : Option (List Char × List Char)) : Option (List Char × List Char) :=
    found.map fun (text, rest) => (c :: text, rest)

/-- Drops a line end, if there is one. -/
def skipLineEnd (s : List Char) : List Char := (lineEnd? s).getD s

def line? : List Char → Option (List Char × List Char)
  | '"' :: rest => basic? false (.between false) rest
  | '\x27' :: rest => literal? false rest
  | _ => none

def string? : List Char → Option (List Char × List Char)
  | '"' :: '"' :: '"' :: rest => basic? true (.between false) (skipLineEnd rest)
  | '\x27' :: '\x27' :: '\x27' :: rest => literal? true (skipLineEnd rest)
  | s => line? s

/-! ### Keys -/

def isBare (c : Char) : Bool := c.isAlphanum || c = '-' || c = '_'

def part? : List Char → Option (String × List Char)
  | [] => none
  | c :: rest =>
    if c = '"' || c = '\x27' then
      (line? (c :: rest)).map fun (text, rest) => (String.ofList text, rest)
    else if isBare c then
      let (text, rest) := (c :: rest).span isBare
      some (String.ofList text, rest)
    else none

structure Key where
  path : List String
  name : String
  deriving DecidableEq, Repr

def Key.maxParts : Nat := 79

/-- A key of at most `fuel` parts, with the blanks around it. -/
def keyWithin? : (fuel : Nat) → List Char → Option (Key × List Char)
  | 0, _ => none
  | fuel + 1, s => do
    let (name, s) ← part? (skipBlanks s)
    match skipBlanks s with
    | '.' :: s =>
      let (key, s) ← keyWithin? fuel s
      pure (⟨name :: key.path, key.name⟩, s)
    | s => pure (⟨[], name⟩, s)

def key? (s : List Char) : Option (Key × List Char) := keyWithin? Key.maxParts s

end Adjudication.Toml
