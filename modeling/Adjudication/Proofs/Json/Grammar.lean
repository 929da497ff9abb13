import Adjudication.Json.Lexer

/-!
# JSON as a language

Which texts are a JSON value, said without a reader. A value is a row of tokens, and a text of it spells these tokens
in order, with any blanks before, between and after them. Each character of a string may be written as itself, unless it
is a control, a quote or a backslash, or as any escape that stands for it.
-/

namespace Adjudication.Json

/-- A JSON value. The members of an object are in order, and may have a key in common. -/
inductive Data where
  | null
  | boolean (value : Bool)
  | number (spelling : Number)
  | string (text : String)
  | array (items : List Data)
  | object (members : List (String × Data))

/-- What holds of a value if it holds of all values in it holds of every value. -/
@[induction_eliminator]
theorem Data.induct {motive : Data → Prop} (null : motive .null) (boolean : ∀ value, motive (.boolean value))
    (number : ∀ spelling, motive (.number spelling)) (string : ∀ text, motive (.string text))
    (array : ∀ items, (∀ v ∈ items, motive v) → motive (.array items))
    (object : ∀ members : List (String × Data), (∀ m ∈ members, motive m.2) → motive (.object members)) :
    ∀ v, motive v :=
  @Data.rec motive (fun items => ∀ v ∈ items, motive v) (fun members => ∀ m ∈ members, motive m.2)
    (fun m => motive m.2) null boolean number string array object
    nofun (fun _ _ first rest => List.forall_mem_cons.mpr ⟨first, rest⟩)
    nofun (fun _ _ first rest => List.forall_mem_cons.mpr ⟨first, rest⟩)
    (fun _ _ value => value)

/-! ### Numbers -/

def Digits (s : List Char) : Prop := s ≠ [] ∧ ∀ c ∈ s, c.isDigit

inductive FractionSpells : Option (List Char) → List Char → Prop where
  | absent : FractionSpells none []
  | present {digits} (ok : Digits digits) : FractionSpells (some digits) ('.' :: digits)

/-- An exponent without a minus sign may have a plus sign. -/
inductive ExponentSpells : Option (Bool × List Char) → List Char → Prop where
  | absent : ExponentSpells none []
  | plain {mark digits} (letter : mark = 'e' ∨ mark = 'E') (ok : Digits digits) :
      ExponentSpells (some (false, digits)) (mark :: digits)
  | plus {mark digits} (letter : mark = 'e' ∨ mark = 'E') (ok : Digits digits) :
      ExponentSpells (some (false, digits)) (mark :: '+' :: digits)
  | minus {mark digits} (letter : mark = 'e' ∨ mark = 'E') (ok : Digits digits) :
      ExponentSpells (some (true, digits)) (mark :: '-' :: digits)

/-- The spellings of a number: the only leading zero of its whole part is the zero that stands alone. -/
inductive Number.Spells : Number → List Char → Prop where
  | intro {negative whole fraction exponent f e} (ok : Digits whole) (lead : whole = ['0'] ∨ whole.head? ≠ some '0')
      (fractional : FractionSpells fraction f) (exponential : ExponentSpells exponent e) :
      Spells ⟨negative, whole, fraction, exponent⟩ ((if negative then ['-'] else []) ++ (whole ++ (f ++ e)))

/-! ### Strings -/

/-- The characters that have an escape of their own, after the letter of the escape. -/
def shortEscapes : List (Char × Char) := [
  ('"', '"'), ('\\', '\\'), ('/', '/'), ('b', '\x08'), ('f', '\x0c'), ('n', '\n'), ('r', '\r'), ('t', '\t')]

/-- Four hexadecimal digits, of either case, and the code unit that they stand for. -/
structure HexSpells (code : Nat) (digits : List Char) : Prop where
  length : digits.length = 4
  hex : digits.all (Text.isDigitOf 16)
  value : Text.digitsValue 16 digits = code

/-- The spellings of the characters of a string. A character beyond the sixteen bits of an escape takes a pair of them,
the surrogates. -/
inductive Spelling : List Char → List Char → Prop where
  | nil : Spelling [] []
  | plain {c text s} (visible : 0x20 ≤ c.toNat) (not_quote : c ≠ '"') (not_backslash : c ≠ '\\')
      (rest : Spelling text s) : Spelling (c :: text) (c :: s)
  | short {e c text s} (escape : (e, c) ∈ shortEscapes) (rest : Spelling text s) :
      Spelling (c :: text) ('\\' :: e :: s)
  | unit {c digits text s} (code : HexSpells c.toNat digits) (rest : Spelling text s) :
      Spelling (c :: text) ('\\' :: 'u' :: (digits ++ s))
  | pair {c high low first second text s} (isHigh : 0xD800 ≤ high ∧ high < 0xDC00) (isLow : 0xDC00 ≤ low ∧ low < 0xE000)
      (code : c.toNat = 0x10000 + (high - 0xD800) * 0x400 + (low - 0xDC00))
      (firstCode : HexSpells high first) (secondCode : HexSpells low second) (rest : Spelling text s) :
      Spelling (c :: text) ('\\' :: 'u' :: (first ++ '\\' :: 'u' :: (second ++ s)))

/-! ### Tokens -/

inductive Mark where
  | openArray
  | closeArray
  | openObject
  | closeObject
  | comma
  | colon

def Mark.char : Mark → Char
  | .openArray => '['
  | .closeArray => ']'
  | .openObject => '\x7b'
  | .closeObject => '\x7d'
  | .comma => ','
  | .colon => ':'

inductive Token where
  | mark (mark : Mark)
  | null
  | boolean (value : Bool)
  | number (spelling : Number)
  | string (text : String)

inductive Token.Spells : Token → List Char → Prop where
  | mark (mark : Mark) : Spells (.mark mark) [mark.char]
  | null : Spells .null ['n', 'u', 'l', 'l']
  | yes : Spells (.boolean true) ['t', 'r', 'u', 'e']
  | no : Spells (.boolean false) ['f', 'a', 'l', 's', 'e']
  | number {n s} (spelled : n.Spells s) : Spells (.number n) s
  | string {text s} (spelled : Spelling text.toList s) : Spells (.string text) ('"' :: (s ++ ['"']))

mutual

/-- The tokens of a value, in order. -/
def Data.tokens : Data → List Token
  | .null => [.null]
  | .boolean value => [.boolean value]
  | .number spelling => [.number spelling]
  | .string text => [.string text]
  | .array items =>
    .mark .openArray :: (List.intercalate [.mark .comma] (itemTokens items) ++ [.mark .closeArray])
  | .object members =>
    .mark .openObject :: (List.intercalate [.mark .comma] (memberTokens members) ++ [.mark .closeObject])

def itemTokens : List Data → List (List Token)
  | [] => []
  | item :: items => item.tokens :: itemTokens items

def memberTokens : List (String × Data) → List (List Token)
  | [] => []
  | (key, value) :: members => (.string key :: .mark .colon :: value.tokens) :: memberTokens members

end

/-! ### Texts -/

def Blank (s : List Char) : Prop := ∀ c ∈ s, isBlank c

instance : DecidablePred Blank := fun s => decidable_of_iff (s.all isBlank) List.all_eq_true

/-- A text that spells tokens in order, with any blanks around them. -/
inductive Written : List Token → List Char → Prop where
  | blank {s} (blank : Blank s) : Written [] s
  | token {token tokens before s rest} (blank : Blank before) (spelled : token.Spells s)
      (written : Written tokens rest) : Written (token :: tokens) (before ++ (s ++ rest))

/-- A text of a value. -/
def Data.WrittenAs (v : Data) (text : String) : Prop := Written v.tokens text.toList

namespace Written

variable {token : Token} {tokens more : List Token} {s t : List Char}

theorem nil : Written [] [] := .blank nofun

theorem cons (spelled : token.Spells s) (written : Written tokens t) : Written (token :: tokens) (s ++ t) :=
  .token (show Blank [] from nofun) spelled written

theorem mark_cons (mark : Mark) (written : Written tokens t) : Written (.mark mark :: tokens) (mark.char :: t) :=
  cons (.mark mark) written

theorem string_cons {text : String} (spelled : Spelling text.toList s) (written : Written tokens t) :
    Written (.string text :: tokens) ('"' :: (s ++ '"' :: t)) := by
  simpa using cons (.string spelled) written

theorem after_blank (blank : Blank s) (written : Written tokens t) : Written tokens (s ++ t) := by
  cases written with
  | blank later => exact .blank (List.forall_mem_append.mpr ⟨blank, later⟩)
  | token later spelled written =>
    rw [← List.append_assoc]
    exact .token (List.forall_mem_append.mpr ⟨blank, later⟩) spelled written

theorem append (first : Written tokens s) (second : Written more t) : Written (tokens ++ more) (s ++ t) := by
  induction first with
  | blank blank => exact second.after_blank blank
  | token blank spelled _ ih =>
    rw [List.append_assoc, List.append_assoc]
    exact .token blank spelled ih

theorem before_blank (written : Written tokens s) (blank : Blank t) : Written tokens (s ++ t) := by
  simpa using written.append (.blank blank)

end Written

end Adjudication.Json
