import Adjudication.Proofs.Text.Digits
import Adjudication.Toml.Reader

/-!
# Integers in TOML

The decimal digits of an integer of sixty-three bits are read as it, if what follows could not be part of a number, of a
date or of a time. `readValue?_decimal` says so; the other readers of values have to fail on the digits first.
-/

namespace Adjudication.Toml

/-- The characters that may follow an integer: blanks, the end of a line, a comment, or what follows a value in an array
or an inline table. -/
def followers : List Char := [' ', '\t', '\n', '\r', '#', ',', ']', '\x7d']

/-- What may follow an integer, if anything does. -/
def EndsInteger (s : List Char) : Prop := ∀ c ∈ s.head?, c ∈ followers

/-- Decimal digits, or none, and then what may follow an integer. -/
inductive DigitsBefore (e : List Char) : List Char → Prop where
  | ends (ends : EndsInteger e) : DigitsBefore e e
  | digit {c s} (digit : c.isDigit) (more : DigitsBefore e s) : DigitsBefore e (c :: s)

variable {s e rest digits : List Char} {c mark : Char}

theorem digitsBefore_append (ok : ∀ c ∈ digits, c.isDigit) (ends : EndsInteger e) : DigitsBefore e (digits ++ e) := by
  induction digits with
  | nil => exact .ends ends
  | cons d digits ih =>
    obtain ⟨first, rest⟩ := List.forall_mem_cons.mp ok
    exact .digit first (ih rest)

namespace DigitsBefore

theorem head (before : DigitsBefore e s) (first : c ∈ s.head?) : c.isDigit ∨ c ∈ followers := by
  cases before with
  | ends ends => exact .inr (ends c first)
  | digit digit =>
    cases first
    exact .inl digit

theorem not_digit (ends : EndsInteger (c :: e)) : c.isDigit = false := by
  have each : followers.all fun c => !c.isDigit := by decide
  simpa using List.all_eq_true.mp each c (ends c rfl)

/-! ### Dates and times -/

theorem fixed? {n value x : Nat} (before : DigitsBefore e s) (read : Toml.fixed? n s value = some (x, rest)) :
    DigitsBefore e rest := by
  induction n generalizing s value with
  | zero =>
    cases read
    exact before
  | succ n ih =>
    cases before with
    | ends ends =>
      cases e with
      | nil => cases read
      | cons c e =>
        rw [Toml.fixed?, not_digit ends] at read
        cases read
    | digit digit more =>
      rw [Toml.fixed?, if_pos digit] at read
      exact ih more read

theorem pair? {low high x : Nat} (before : DigitsBefore e s) (read : Toml.pair? low high s = some (x, rest)) :
    DigitsBefore e rest := by
  obtain ⟨⟨_, _⟩, read, bounded⟩ := Option.bind_eq_some_iff.mp read
  obtain ⟨-, ⟨⟩⟩ := Option.ite_none_right_eq_some.mp bounded
  exact before.fixed? read

theorem mark?_eq_none (before : DigitsBefore e s) (isMark : mark = '-' ∨ mark = ':') : mark? mark s = none := by
  cases s with
  | nil => rfl
  | cons c s =>
    rw [mark?, if_neg]
    rintro rfl
    have head := before.head rfl
    rcases isMark with rfl | rfl <;> revert head <;> decide

theorem date?_eq_none (before : DigitsBefore e s) : date? s = none := by
  rw [date?]
  cases read : Toml.fixed? 4 s 0 with
  | none => rfl
  | some found =>
    have none := (before.fixed? read).mark?_eq_none (.inl rfl)
    simp [none]

theorem time?_eq_none (before : DigitsBefore e s) : time? s = none := by
  rw [time?]
  cases read : Toml.pair? 0 23 s with
  | none => rfl
  | some found =>
    have none := (before.pair? read).mark?_eq_none (.inr rfl)
    simp [none]

theorem moment?_eq_none (before : DigitsBefore e s) : moment? s = none := by
  rw [moment?, before.date?_eq_none, before.time?_eq_none]

end DigitsBefore

/-! ### Digits -/

theorem moreDigits_append (ok : ∀ c ∈ digits, c.isDigit) (ends : EndsInteger e) :
    moreDigits Char.isDigit (digits ++ e) = (digits, e) := by
  induction digits with
  | nil =>
    cases e with
    | nil => rfl
    | cons c e =>
      have notUnderscore : c ≠ '_' := by
        rintro rfl
        exact absurd (ends _ rfl) (by decide)
      rw [List.nil_append, moreDigits.eq_3 _ _ _ (fun _ _ same => absurd same notUnderscore),
        DigitsBefore.not_digit ends]
      rfl
  | cons d digits ih =>
    obtain ⟨first, rest⟩ := List.forall_mem_cons.mp ok
    have notUnderscore : d ≠ '_' := by
      rintro rfl
      exact absurd first (by decide)
    rw [List.cons_append, moreDigits.eq_3 _ _ _ (fun _ _ same => absurd same notUnderscore), if_pos first, ih rest]

theorem isDigit_of_mem_decimal {k : Nat} : ∀ c ∈ Nat.toDigits 10 k, c.isDigit := fun _ member =>
  Nat.isDigit_of_mem_toDigits (by decide) (by decide) member

theorem decimal_eq_cons (k : Nat) : ∃ d digits, Nat.toDigits 10 k = d :: digits ∧ d.isDigit := by
  obtain ⟨d, digits, same⟩ := List.exists_cons_of_ne_nil (Nat.toDigits_ne_nil (n := k) (b := 10))
  exact ⟨d, digits, same, isDigit_of_mem_decimal d (same ▸ List.mem_cons_self)⟩

theorem decimal_ne_cons {k : Nat} (notDigit : c.isDigit = false) : Nat.toDigits 10 k ++ e ≠ c :: rest := by
  obtain ⟨d, digits, same, first⟩ := decimal_eq_cons k
  rw [same]
  rintro ⟨⟩
  exact absurd first (by simp [notDigit])

/-! ### Numbers -/

theorem spanSign_decimal (k : Nat) (e : List Char) :
    Text.spanSign (Nat.toDigits 10 k ++ e) = (false, Nat.toDigits 10 k ++ e) :=
  Text.spanSign.eq_3 _ (fun _ => decimal_ne_cons (by decide)) (fun _ => decimal_ne_cons (by decide))

theorem special?_decimal (k : Nat) (e : List Char) : special? (Nat.toDigits 10 k ++ e) = none := by
  rw [special?, spanSign_decimal]
  split
  · rename_i starts
    exact absurd (Prod.mk.inj starts).2 (decimal_ne_cons (by decide))
  · rename_i starts
    exact absurd (Prod.mk.inj starts).2 (decimal_ne_cons (by decide))
  · rfl

variable {k : Nat} (ends : EndsInteger e)
include ends

theorem whole?_decimal (k : Nat) : whole? (Nat.toDigits 10 k ++ e) = some (Nat.toDigits 10 k, e) := by
  rcases Text.toDigits_lead k with zero | lead
  · rw [zero]
    rfl
  · have ok : ∀ c ∈ Nat.toDigits 10 k, c.isDigit := isDigit_of_mem_decimal
    obtain ⟨d, digits, same, first⟩ := decimal_eq_cons k
    rw [same] at lead ok ⊢
    have notZero : d ≠ '0' := fun zero => lead (congrArg some zero)
    rw [List.cons_append, whole?.eq_2 _ fun _ zero => absurd (List.cons.inj zero).1 notZero, digits?, if_pos first,
      moreDigits_append (List.forall_mem_cons.mp ok).2 ends]

/-- What follows an integer is no fraction and no exponent. -/
theorem decimal?_decimal (k : Nat) : decimal? (Nat.toDigits 10 k ++ e) = none := by
  have noFraction : fraction? e = none := by
    rw [fraction?.eq_2]
    rintro _ rfl
    exact absurd (ends _ rfl) (by decide)
  have noExponent : exponent? e = none := by
    cases e with
    | nil => rfl
    | cons c e =>
      have each : followers.all fun c => !(c = 'e' || c = 'E') := by decide
      have notLetter := List.all_eq_true.mp each c (ends c rfl)
      rw [exponent?, if_neg (by simpa using notLetter)]
  simp [decimal?, spanSign_decimal, whole?_decimal ends, noFraction, noExponent]

theorem integer?_decimal (small : k < int64Bound) : integer? (Nat.toDigits 10 k ++ e) = some ((k : Int), e) := by
  -- A zero stands alone, so that no letter of another base follows it.
  have base : ∀ mark, mark ∉ followers → ∀ s, Nat.toDigits 10 k ++ e ≠ '0' :: mark :: s := by
    intro mark other s same
    rcases Text.toDigits_lead k with zero | lead
    · rw [zero] at same
      obtain rfl : e = mark :: s := List.tail_eq_of_cons_eq same
      exact other (ends mark rfl)
    · obtain ⟨d, digits, decimal, -⟩ := decimal_eq_cons k
      rw [decimal] at same lead
      exact lead (congrArg some (List.head_eq_of_cons_eq same))
  have value : Text.decimalValue (Nat.toDigits 10 k) = k := Nat.ofDigitChars_ten_toDigits
  rw [integer?.eq_4 _ (base 'x' (by decide)) (base 'o' (by decide)) (base 'b' (by decide))]
  simp [spanSign_decimal, whole?_decimal ends, value, fitting?, small]

theorem number?_decimal (small : k < int64Bound) : number? (Nat.toDigits 10 k ++ e) = some (.integer k, e) := by
  rw [number?, decimal?_decimal ends, special?_decimal, integer?_decimal ends small]
  rfl

/-! ### Values -/

/-- The digits of an integer of sixty-three bits are read as this integer. -/
theorem readValue?_decimal (fuel depth : Nat) (small : k < int64Bound) :
    readValue? (fuel + 1) depth (Nat.toDigits 10 k ++ e) = some (.number (.integer k), e) := by
  have noString : string? (Nat.toDigits 10 k ++ e) = none := by
    rw [string?.eq_3 _ (fun _ => decimal_ne_cons (by decide)) (fun _ => decimal_ne_cons (by decide)),
      line?.eq_3 _ (fun _ => decimal_ne_cons (by decide)) (fun _ => decimal_ne_cons (by decide))]
  have before : DigitsBefore e (Nat.toDigits 10 k ++ e) := digitsBefore_append isDigit_of_mem_decimal ends
  rw [readValue?.eq_8 _ _ _ (fun _ => decimal_ne_cons (by decide)) (fun _ => decimal_ne_cons (by decide))
    (fun _ => decimal_ne_cons (by decide)) (fun _ => decimal_ne_cons (by decide)), noString,
    before.moment?_eq_none, number?_decimal ends small]
  rfl

end Adjudication.Toml
