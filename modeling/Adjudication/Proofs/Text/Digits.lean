import Adjudication.Text.Digits
import Mathlib.Data.List.Basic

/-!
# Decimal digits

The digits that a natural number is written with: none but the zero itself starts with a zero, and more digits after
those of a positive number are appended to it.
-/

namespace Adjudication.Text

theorem toNat_sub_lt_ten {c : Char} (digit : c.isDigit) : c.toNat - '0'.toNat < 10 := by
  have range := Char.isDigit_iff_toNat.mp digit
  exact Nat.sub_lt_right_of_lt_add range.1 (Nat.lt_succ_of_le range.2)

theorem digitChar_toNat_sub {c : Char} (digit : c.isDigit) : Nat.digitChar (c.toNat - '0'.toNat) = c := by
  apply Char.toNat_inj.mp
  rw [Nat.toNat_digitChar_of_lt_ten (toNat_sub_lt_ten digit)]
  exact Nat.add_sub_cancel' (Char.isDigit_iff_toNat.mp digit).1

/-- Reading more digits after a positive number appends them to its digits. -/
theorem toDigits_ofDigitChars {digits : List Char} (ok : ∀ c ∈ digits, c.isDigit) {n : Nat} (positive : 0 < n) :
    Nat.toDigits 10 (Nat.ofDigitChars 10 digits n) = Nat.toDigits 10 n ++ digits := by
  induction digits generalizing n with
  | nil => simp
  | cons d digits ih =>
    obtain ⟨first, rest⟩ := List.forall_mem_cons.mp ok
    have small := toNat_sub_lt_ten first
    calc Nat.toDigits 10 (Nat.ofDigitChars 10 (d :: digits) n)
      _ = Nat.toDigits 10 (10 * n + (d.toNat - '0'.toNat)) ++ digits := by
        rw [Nat.ofDigitChars_cons]
        exact ih rest (by omega)
      _ = Nat.toDigits 10 n ++ [d] ++ digits := by
        rw [← Nat.toDigits_append_toDigits (by decide) positive small, Nat.toDigits_of_lt_base small,
          digitChar_toNat_sub first]
      _ = Nat.toDigits 10 n ++ d :: digits := by simp

theorem toDigits_head_ne_zero {n : Nat} (positive : 0 < n) : (Nat.toDigits 10 n).head? ≠ some '0' := by
  induction n using Nat.strongRecOn with
  | ind n ih =>
    by_cases small : n < 10
    · rw [Nat.toDigits_of_lt_base small]
      have each : ∀ n < 10, 0 < n → [Nat.digitChar n].head? ≠ some '0' := by decide
      exact each n small positive
    · rw [Nat.toDigits_of_base_le (by decide) (Nat.le_of_not_lt small),
        List.head?_append_of_ne_nil _ Nat.toDigits_ne_nil]
      exact ih (n / 10) (by omega) (by omega)

theorem toDigits_lead (n : Nat) : Nat.toDigits 10 n = ['0'] ∨ (Nat.toDigits 10 n).head? ≠ some '0' := by
  cases n with
  | zero => exact .inl rfl
  | succ n => exact .inr (toDigits_head_ne_zero n.succ_pos)

end Adjudication.Text
