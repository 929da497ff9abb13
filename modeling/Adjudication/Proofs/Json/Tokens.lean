import Adjudication.Proofs.Json.Grammar
import Mathlib.Data.List.TakeDrop
import Mathlib.Data.List.TakeWhile

/-!
# Reading tokens

The reader of a token takes just the spelling of it off the front of a text, and finds out which token it is. Only a
number needs to know what follows: nothing that could be part of it.
-/

namespace Adjudication.Json

/-! ### Blanks -/

theorem skipBlanks_append {s t : List Char} (blank : Blank s) : skipBlanks (s ++ t) = skipBlanks t :=
  List.dropWhile_append_of_pos blank

theorem skipBlanks_eq_nil {s : List Char} (blank : Blank s) : skipBlanks s = [] :=
  List.dropWhile_eq_nil_iff.mpr blank

theorem skipBlanks_cons {c : Char} {s : List Char} (visible : isBlank c = false) : skipBlanks (c :: s) = c :: s :=
  List.dropWhile_cons_of_neg (by simp [visible])

/-! ### Numbers -/

/-- Whether a number may go on with a character. -/
def isNumberPart (c : Char) : Bool := c.isDigit || c = '.' || c = 'e' || c = 'E'

/-- What follows a number: nothing, or a character that is no part of it. -/
def Stops (s : List Char) : Prop := ∀ c ∈ s.head?, isNumberPart c = false

/-- What follows digits. -/
def StopsDigits (s : List Char) : Prop := ∀ c ∈ s.head?, c.isDigit = false

theorem isNumberPart_eq_false_iff {c : Char} :
    isNumberPart c = false ↔ c.isDigit = false ∧ c ≠ '.' ∧ c ≠ 'e' ∧ c ≠ 'E' := by
  simp [isNumberPart, and_assoc]

theorem Stops.digits {s : List Char} (stops : Stops s) : StopsDigits s := fun c first =>
  (isNumberPart_eq_false_iff.mp (stops c first)).1

theorem digits?_append {digits rest : List Char} (ok : Digits digits) (stops : StopsDigits rest) :
    digits? (digits ++ rest) = some (digits, rest) := by
  have none : rest.takeWhile Char.isDigit = [] ∧ rest.dropWhile Char.isDigit = rest := by
    cases rest with
    | nil => exact ⟨rfl, rfl⟩
    | cons c rest => simp [stops c rfl]
  have spanned : spanDigits (digits ++ rest) = (digits, rest) := by
    rw [spanDigits, List.span_eq_takeWhile_dropWhile, List.takeWhile_append_of_pos ok.2,
      List.dropWhile_append_of_pos ok.2, none.1, none.2, List.append_nil]
  rw [digits?, spanned]
  cases digits with
  | nil => exact absurd rfl ok.1
  | cons => rfl

theorem whole?_append {whole rest : List Char} (ok : Digits whole) (lead : whole = ['0'] ∨ whole.head? ≠ some '0')
    (stops : StopsDigits rest) : whole? (whole ++ rest) = some (whole, rest) := by
  rw [whole?, digits?_append ok stops]
  split
  · rename_i zero
    cases zero
    simp at lead
  · rfl

theorem fraction?_append {fraction : Option (List Char)} {f rest : List Char} (spelled : FractionSpells fraction f)
    (stops : ∀ c ∈ rest.head?, c.isDigit = false ∧ c ≠ '.') : fraction? (f ++ rest) = some (fraction, rest) := by
  cases spelled with
  | absent =>
    rw [List.nil_append, fraction?.eq_2]
    rintro s rfl
    exact (stops _ rfl).2 rfl
  | present ok => simp [fraction?, digits?_append ok fun c first => (stops c first).1]

theorem spanSign_of_digits {digits : List Char} (ok : Digits digits) (rest : List Char) :
    Text.spanSign (digits ++ rest) = (false, digits ++ rest) := by
  cases digits with
  | nil => exact absurd rfl ok.1
  | cons d digits =>
    have digit := ok.2 d List.mem_cons_self
    rw [List.cons_append, Text.spanSign.eq_3]
    · rintro _ same
      cases same
      exact absurd digit (by decide)
    · rintro _ same
      cases same
      exact absurd digit (by decide)

theorem exponent?_append {exponent : Option (Bool × List Char)} {e rest : List Char}
    (spelled : ExponentSpells exponent e) (stops : Stops rest) : exponent? (e ++ rest) = some (exponent, rest) := by
  cases spelled with
  | absent =>
    rw [List.nil_append, exponent?.eq_3]
    · rintro s rfl
      exact (isNumberPart_eq_false_iff.mp (stops _ rfl)).2.2.1 rfl
    · rintro s rfl
      exact (isNumberPart_eq_false_iff.mp (stops _ rfl)).2.2.2 rfl
  | plain letter ok =>
    rcases letter with rfl | rfl <;> simp [exponent?, spanSign_of_digits ok, digits?_append ok stops.digits]
  | plus letter ok | minus letter ok =>
    rcases letter with rfl | rfl <;> simp [exponent?, Text.spanSign, digits?_append ok stops.digits]

/-- An exponent, and what follows it, starts with nothing that could be part of a fraction. -/
theorem ExponentSpells.stops {exponent : Option (Bool × List Char)} {e rest : List Char}
    (spelled : ExponentSpells exponent e) (stops : Stops rest) :
    ∀ c ∈ (e ++ rest).head?, c.isDigit = false ∧ c ≠ '.' := by
  cases spelled with
  | absent =>
    intro c first
    have stop := isNumberPart_eq_false_iff.mp (stops c first)
    exact ⟨stop.1, stop.2.1⟩
  | plain letter | plus letter | minus letter =>
    rcases letter with rfl | rfl <;> (rintro c first; cases first; decide)

theorem FractionSpells.stops {fraction : Option (List Char)} {f rest : List Char}
    (spelled : FractionSpells fraction f) (stops : StopsDigits rest) : StopsDigits (f ++ rest) := by
  cases spelled with
  | absent => exact stops
  | present => rintro c first; cases first; decide

/-- The reader of numbers takes the spelling of a number after its sign, which starts with a digit. -/
theorem number?_append {n : Number} {s rest : List Char} (spelled : n.Spells s) (stops : Stops rest) :
    ∃ d unsigned, s = (if n.negative then ['-'] else []) ++ d :: unsigned ∧ d.isDigit ∧
      number? n.negative (d :: unsigned ++ rest) = some (n, rest) := by
  cases spelled with
  | @intro negative whole fraction exponent f e ok lead fractional exponential =>
    have exponentStops := exponential.stops stops
    have fractionStops := fractional.stops fun c first => (exponentStops c first).1
    have read : number? negative (whole ++ (f ++ e) ++ rest) = some (⟨negative, whole, fraction, exponent⟩, rest) := by
      simp [number?, whole?_append ok lead fractionStops, fraction?_append fractional exponentStops,
        exponent?_append exponential stops]
    cases whole with
    | nil => exact absurd rfl ok.1
    | cons d whole => exact ⟨d, whole ++ (f ++ e), rfl, ok.2 d List.mem_cons_self, read⟩

theorem Number.Spells.head {n : Number} {s : List Char} (spelled : n.Spells s) :
    ∃ c rest, s = c :: rest ∧ (c = '-' ∨ c.isDigit) := by
  have nothing : Stops [] := nofun
  obtain ⟨d, unsigned, rfl, digit, -⟩ := number?_append spelled nothing
  cases n.negative with
  | true => exact ⟨'-', d :: unsigned, rfl, .inl rfl⟩
  | false => exact ⟨d, unsigned, rfl, .inr digit⟩

/-! ### Strings -/

/-- A piece before all others. -/
def Piece.before (piece : Piece) : List Piece × List Char → List Piece × List Char
  | (pieces, rest) => (piece :: pieces, rest)

theorem pieces?_plain {c : Char} {s : List Char} (visible : 0x20 ≤ c.toNat) (not_quote : c ≠ '"')
    (not_backslash : c ≠ '\\') : pieces? (c :: s) = (pieces? s).map (Piece.char c).before := by
  have shown : ¬ (c.toNat < 0x20 || c = '\\') = true := by
    simpa using ⟨visible, not_backslash⟩
  rw [pieces?.eq_5 c s not_quote (fun _ _ _ _ _ same => absurd same not_backslash)
    (fun _ _ same => absurd same not_backslash), if_neg shown]
  cases pieces? s <;> rfl

theorem pieces?_short {e c : Char} {s : List Char} (escape : (e, c) ∈ shortEscapes) :
    pieces? ('\\' :: e :: s) = (pieces? s).map (Piece.char c).before := by
  have known : e ≠ 'u' ∧ escaped? e = some c := by
    simp only [shortEscapes, List.mem_cons, List.not_mem_nil, or_false, Prod.mk.injEq] at escape
    rcases escape with ⟨rfl, rfl⟩ | ⟨rfl, rfl⟩ | ⟨rfl, rfl⟩ | ⟨rfl, rfl⟩ | ⟨rfl, rfl⟩ | ⟨rfl, rfl⟩ | ⟨rfl, rfl⟩ | ⟨rfl, rfl⟩ <;>
      exact ⟨by decide, rfl⟩
  rw [pieces?.eq_4 e s (fun _ _ _ _ _ same => absurd same known.1), known.2]
  cases pieces? s <;> rfl

theorem pieces?_unit {code : Nat} {digits s : List Char} (spelled : HexSpells code digits) :
    pieces? ('\\' :: 'u' :: (digits ++ s)) = (pieces? s).map (Piece.unit code).before := by
  obtain ⟨length, hex, value⟩ := spelled
  match digits, length with
  | [a, b, c, d], _ =>
    have read : unit? a b c d = some code := by
      rw [unit?, if_pos hex, value]
    rw [List.cons_append, List.cons_append, List.cons_append, List.cons_append, List.nil_append, pieces?.eq_3, read]
    cases pieces? s <;> rfl

theorem not_surrogate (c : Char) : isHighSurrogate c.toNat = false ∧ isLowSurrogate c.toNat = false := by
  have valid : c.toNat < 0xD800 ∨ 0xDFFF < c.toNat ∧ c.toNat < 0x110000 := c.valid
  simp only [isHighSurrogate, isLowSurrogate, Bool.and_eq_false_iff, decide_eq_false_iff_not]
  omega

theorem text?_unit (c : Char) (pieces : List Piece) :
    text? (.unit c.toNat :: pieces) = (text? pieces).map (c :: ·) := by
  obtain ⟨notHigh, notLow⟩ := not_surrogate c
  match pieces with
  | [] => simp [text?, notHigh, notLow]
  | .char d :: pieces => simp [text?, notHigh, notLow]
  | .unit code :: pieces => simp [text?, notHigh, notLow]

theorem text?_pair {c : Char} {high low : Nat} (isHigh : 0xD800 ≤ high ∧ high < 0xDC00)
    (isLow : 0xDC00 ≤ low ∧ low < 0xE000) (code : c.toNat = 0x10000 + (high - 0xD800) * 0x400 + (low - 0xDC00))
    (pieces : List Piece) : text? (.unit high :: .unit low :: pieces) = (text? pieces).map (c :: ·) := by
  rw [text?.eq_3, if_pos (by simpa [isHighSurrogate] using isHigh), if_pos (by simpa [isLowSurrogate] using isLow),
    ← code, Char.ofNat_toNat]

theorem pieces?_append {text s : List Char} (spelled : Spelling text s) :
    ∃ pieces, text? pieces = some text ∧ ∀ rest, pieces? (s ++ '"' :: rest) = some (pieces, rest) := by
  induction spelled with
  | nil => exact ⟨[], rfl, fun _ => rfl⟩
  | @plain c _ _ visible not_quote not_backslash _ ih =>
    obtain ⟨pieces, text, read⟩ := ih
    refine ⟨.char c :: pieces, by rw [text?, text]; rfl, fun rest => ?_⟩
    rw [List.cons_append, pieces?_plain visible not_quote not_backslash, read]
    rfl
  | @short e c _ _ escape _ ih =>
    obtain ⟨pieces, text, read⟩ := ih
    refine ⟨.char c :: pieces, by rw [text?, text]; rfl, fun rest => ?_⟩
    rw [List.cons_append, List.cons_append, pieces?_short escape, read]
    rfl
  | @unit c _ _ _ code _ ih =>
    obtain ⟨pieces, text, read⟩ := ih
    refine ⟨.unit c.toNat :: pieces, by rw [text?_unit, text]; rfl, fun rest => ?_⟩
    rw [List.cons_append, List.cons_append, List.append_assoc, pieces?_unit code, read]
    rfl
  | @pair c high low _ _ _ _ isHigh isLow code firstCode secondCode _ ih =>
    obtain ⟨pieces, text, read⟩ := ih
    refine ⟨.unit high :: .unit low :: pieces, by rw [text?_pair isHigh isLow code, text]; rfl, fun rest => ?_⟩
    rw [List.cons_append, List.cons_append, List.append_assoc, pieces?_unit firstCode, List.cons_append,
      List.cons_append, List.append_assoc, pieces?_unit secondCode, read]
    rfl

/-- The reader of strings takes any spelling of a string up to the quote after it. -/
theorem string?_append {text : String} {s : List Char} (spelled : Spelling text.toList s) (rest : List Char) :
    string? (s ++ '"' :: rest) = some (some text, rest) := by
  obtain ⟨pieces, known, read⟩ := pieces?_append spelled
  simp [string?, read, known]

end Adjudication.Json
