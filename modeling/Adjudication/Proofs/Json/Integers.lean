import Adjudication.Proofs.Json.Tokens
import Adjudication.Proofs.Json.Writing

/-!
# Integers in JSON

A text spells one number at most, and each integer has one spelling: the decimal digits of its size, after a minus sign
if it is negative. A number stands for an integer just if it is this spelling and fits in sixty-four bits.
-/

namespace Adjudication.Json

/-! ### Digits -/

/-- Digits without a leading zero are the digits of the number that they stand for. -/
theorem toDigits_decimalValue {whole : List Char} (ok : Digits whole) (lead : whole = ['0'] ∨ whole.head? ≠ some '0') :
    Nat.toDigits 10 (Text.decimalValue whole) = whole := by
  rcases lead with rfl | lead
  · rfl
  · cases whole with
    | nil => exact absurd rfl ok.1
    | cons d digits =>
      obtain ⟨first, rest⟩ := List.forall_mem_cons.mp ok.2
      have value := Text.digitChar_toNat_sub first
      have positive : 0 < d.toNat - '0'.toNat := by
        refine Nat.pos_of_ne_zero fun zero => lead ?_
        rw [List.head?_cons, ← value, zero]
        rfl
      rw [Text.decimalValue, Nat.ofDigitChars_cons, Nat.mul_zero, Nat.zero_add,
        Text.toDigits_ofDigitChars rest positive, Nat.toDigits_of_lt_base (Text.toNat_sub_lt_ten first), value]
      rfl

namespace Number

/-! ### Spellings -/

/-- A number is negative just if its spelling starts with a minus sign. -/
theorem Spells.negative_iff {n : Number} {s : List Char} (spelled : n.Spells s) :
    n.negative ↔ s.head? = some '-' := by
  obtain ⟨d, unsigned, rfl, digit, -⟩ := number?_append spelled (show Stops [] from nofun)
  cases negative : n.negative with
  | true => simp
  | false =>
    have notMinus : d ≠ '-' := by
      rintro rfl
      exact absurd digit (by decide)
    simpa using notMinus

/-- The number that a text spells is determined by it. -/
theorem Spells.unique {n m : Number} {s : List Char} (spelled : n.Spells s) (other : m.Spells s) : n = m := by
  have signs : n.negative = m.negative := Bool.eq_iff_iff.mpr (spelled.negative_iff.trans other.negative_iff.symm)
  obtain ⟨d, unsigned, rfl, -, read⟩ := number?_append spelled (show Stops [] from nofun)
  obtain ⟨d', unsigned', same, -, read'⟩ := number?_append other (show Stops [] from nofun)
  rw [signs] at same read
  rw [List.append_cancel_left same] at read
  exact (Prod.mk.inj (Option.some.inj (read.symm.trans read'))).1

/-- An integer of any size, as it is written. -/
def ofInt (k : Int) : Number := ⟨decide (k < 0), Nat.toDigits 10 k.natAbs, none, none⟩

theorem spells_ofInt (k : Int) : (ofInt k).Spells (toString k).toList := by
  have shown := @Spells.intro (decide (k < 0)) _ _ _ _ _ (digits_toDigits k.natAbs) (Text.toDigits_lead k.natAbs)
    .absent .absent
  have written : (toString k).toList =
      (if decide (k < 0) then ['-'] else []) ++ (Nat.toDigits 10 k.natAbs ++ ([] ++ [])) := by
    cases k with
    | ofNat k =>
      rw [show toString (Int.ofNat k) = k.repr from rfl, Nat.toList_repr]
      simp [Int.not_lt.mpr (Int.natCast_nonneg k)]
    | negSucc k =>
      rw [show toString (Int.negSucc k) = "-" ++ (k + 1).repr from rfl, String.toList_append, Nat.toList_repr]
      simp [Int.negSucc_lt_zero k]
  rw [written]
  exact shown

/-- The decimal text of an integer spells it and nothing else. -/
theorem spells_toString_iff {n : Number} {k : Int} : n.Spells (toString k).toList ↔ n = ofInt k := by
  constructor
  · exact fun spelled => spelled.unique (spells_ofInt k)
  · rintro rfl
    exact spells_ofInt k

theorem ofInt_injective : Function.Injective ofInt := by
  intro k l same
  have signs : decide (k < 0) = decide (l < 0) := congrArg negative same
  have digits : Nat.toDigits 10 k.natAbs = Nat.toDigits 10 l.natAbs := congrArg whole same
  have sizes : k.natAbs = l.natAbs := by
    have values := congrArg (Nat.ofDigitChars 10 · 0) digits
    simpa using values
  rw [decide_eq_decide] at signs
  omega

theorem eq_ofInt_iff {negative : Bool} {whole : List Char} (ok : Digits whole)
    (lead : whole = ['0'] ∨ whole.head? ≠ some '0') {k : Int} :
    (⟨negative, whole, none, none⟩ : Number) = ofInt k ↔
      negative = decide (k < 0) ∧ Text.decimalValue whole = k.natAbs := by
  simp only [ofInt, Number.mk.injEq, and_true]
  refine and_congr_right fun _ => ⟨?_, fun value => ?_⟩
  · rintro rfl
    exact Nat.ofDigitChars_ten_toDigits
  · rw [← value, toDigits_decimalValue ok lead]

/-- A number stands for an integer just if it is written as one and fits in sixty-four bits, signed or not. -/
theorem integer?_eq_some_iff {n : Number} {s : List Char} (spelled : n.Spells s) {k : Int} :
    n.integer? = some k ↔ n = ofInt k ∧ -(int64Bound : Int) ≤ k ∧ k < UInt64.size := by
  cases spelled with
  | @intro negative whole fraction exponent f e ok lead fractional exponential =>
    cases fraction with
    | some digits => simp [integer?, ofInt]
    | none =>
      cases exponent with
      | some exponent => simp [integer?, ofInt]
      | none =>
        rw [eq_ofInt_iff ok lead]
        cases negative with
        | false =>
          simp only [integer?, Bool.false_eq_true, if_false, Option.ite_none_right_eq_some, Option.some.injEq]
          have bound : UInt64.size = 18446744073709551616 := rfl
          have bound' : int64Bound = 9223372036854775808 := rfl
          grind
        | true =>
          simp only [integer?, if_true, Option.ite_none_right_eq_some, Option.some.injEq]
          have bound : UInt64.size = 18446744073709551616 := rfl
          have bound' : int64Bound = 9223372036854775808 := rfl
          grind

end Number

end Adjudication.Json
