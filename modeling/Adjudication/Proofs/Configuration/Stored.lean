import Adjudication.Proofs.Json.Decoding
import Adjudication.Proofs.Json.Integers
import Adjudication.Stored
import Mathlib

/-!
# Stored configurations

Which numbers a configuration is read from, and as which ceiling: the decimal spellings of the integers of thirty-two
bits without a sign, each as itself. `config_read_from_number` says so of every text of an object whose one ceiling is a
number, and follows the configuration into an evaluator and back into a text.
-/

namespace Adjudication

open Json

theorem uint32OfInt?_eq_some_iff {k : Int} {u : UInt32} : uint32OfInt? k = some u ↔ k = u.toNat := by
  have bound := u.toNat_lt_size
  simp only [uint32OfInt?, Option.ite_none_right_eq_some, Bool.and_eq_true, decide_eq_true_eq, Option.some.injEq]
  constructor
  · rintro ⟨⟨nonnegative, small⟩, rfl⟩
    rw [UInt32.toNat_ofNat_of_lt' (by omega)]
    omega
  · rintro rfl
    exact ⟨⟨by omega, by exact_mod_cast bound⟩, by simp⟩

/-! ### Numbers in a text -/

namespace Json

theorem Written.spelled {token : Token} {tokens : List Token} {s : List Char} (written : Written tokens s)
    (member : token ∈ tokens) : ∃ s, token.Spells s := by
  induction written with
  | blank => cases member
  | @token first tokens _ s _ _ spelled _ ih =>
    rcases List.mem_cons.mp member with rfl | member
    · exact ⟨s, spelled⟩
    · exact ih member

theorem mem_intercalate {token : Token} {separator part : List Token} {parts : List (List Token)}
    (member : part ∈ parts) (inside : token ∈ part) : token ∈ List.intercalate separator parts := by
  induction parts with
  | nil => cases member
  | cons first parts ih =>
    cases parts with
    | nil =>
      obtain rfl := List.mem_singleton.mp member
      rwa [List.intercalate_singleton]
    | cons second parts =>
      rw [List.intercalate_cons_cons]
      rcases List.mem_cons.mp member with rfl | member
      · exact List.mem_append_left _ (List.mem_append_left _ inside)
      · exact List.mem_append_right _ (ih member)

theorem mem_memberTokens {key : String} {v : Data} {members : List (String × Data)} (member : (key, v) ∈ members) :
    .string key :: .mark .colon :: v.tokens ∈ memberTokens members := by
  induction members with
  | nil => cases member
  | cons first members ih =>
    obtain ⟨other, w⟩ := first
    rw [memberTokens]
    rcases List.mem_cons.mp member with same | member
    · cases same
      exact List.mem_cons_self
    · exact List.mem_cons_of_mem _ (ih member)

/-- A number that is the value of a member is spelled somewhere in the text. -/
theorem Data.WrittenAs.number_spelled {members : List (String × Data)} {text key : String} {n : Number}
    (written : (Data.object members).WrittenAs text) (given : .number n ∈ Data.valuesOf key members) :
    ∃ s, n.Spells s := by
  obtain ⟨⟨key, v⟩, found, rfl⟩ := List.mem_map.mp given
  have inside : Token.number n ∈ (Data.object members).tokens := by
    refine List.mem_cons_of_mem _ (List.mem_append_left _ ?_)
    exact mem_intercalate (mem_memberTokens (List.mem_of_mem_filter found)) (by simp [tokens])
  obtain ⟨s, spelled⟩ := Written.spelled written inside
  cases spelled with
  | number spelled => exact ⟨s, spelled⟩

theorem Decoder.uint32_eq_ok_iff {v : Data} {u : UInt32} :
    uint32 v.tree = .ok u ↔ ∃ n, v = .number n ∧ n.integer? = some (u.toNat : Int) := by
  cases v with
  | number n =>
    simp only [Data.tree, uint32, Data.number.injEq, exists_eq_left']
    cases n.integer? with
    | none => simp [unexpected_ne_ok]
    | some k =>
      simp only [Option.some.injEq, ← uint32OfInt?_eq_some_iff]
      cases uint32OfInt? k <;> simp [mismatch]
  | _ => simp [Data.tree, uint32, unexpected_ne_ok]

end Json

namespace EvaluatorConfig

variable {members : List (String × Data)} {c : EvaluatorConfig}

/-- What a value must be for a ceiling to be read from it. -/
def Reads (v : Data) (u : UInt32) : Prop := ∃ n, v = .number n ∧ n.integer? = some (u.toNat : Int)

theorem readMembers_eq_ok_iff {known after : Option UInt32} :
    record.readMembers (memberTrees members) known = .ok after ↔
      Filled Reads known (Data.valuesOf "max_attempts" members) after := by
  induction members generalizing known with
  | nil => simp [memberTrees, Record.readMembers, Data.valuesOf, Filled.nil_iff, eq_comm]
  | cons member members ih =>
    obtain ⟨key, v⟩ := member
    rw [memberTrees, Data.valuesOf_cons]
    by_cases isCeiling : key = "max_attempts"
    · subst isCeiling
      rw [Record.readMembers_known id (fun _ n => some n) rfl Decoder.uint32_eq_ok_iff]
      simp only [ih, if_true, Filled.cons_iff, id, Reads]
    · have unknown : record.fields.find? (·.name == key) = none := by
        simp [record, Ne.symm isCeiling]
      rw [Record.readMembers_unknown unknown, ih, if_neg isCeiling]

/-- Among any members that it does not know, a configuration is read from one number for the ceiling. -/
theorem ofText_eq_ok_iff {text : String} {n : Number} (written : (Data.object members).WrittenAs text)
    (given : Data.valuesOf "max_attempts" members = [.number n]) :
    ofText text = .ok c ↔ n = .ofInt c.maxAttempts.toNat := by
  obtain ⟨s, spelled⟩ := written.number_spelled (given ▸ List.mem_singleton_self _)
  have decoded : ofText text = .ok c ↔
      ∃ after, record.readMembers (memberTrees members) none = .ok after ∧ record.finish after = .ok c := by
    rw [ofText, decodeText_of_writtenAs written]
    exact bind_eq_ok_iff
  have bound := c.maxAttempts.toNat_lt_size
  have fits : -(int64Bound : Int) ≤ c.maxAttempts.toNat ∧ (c.maxAttempts.toNat : Int) < UInt64.size := by
    simp only [int64Bound, UInt64.size, UInt32.size] at bound ⊢
    omega
  simp only [decoded, readMembers_eq_ok_iff, given]
  constructor
  · rintro ⟨_, ⟨⟩, finished⟩
    rename_i u read
    obtain ⟨_, ⟨⟩, integer⟩ := read
    cases finished
    exact ((Number.integer?_eq_some_iff spelled).mp integer).1
  · intro decimal
    exact ⟨some c.maxAttempts, .given ⟨n, rfl, (Number.integer?_eq_some_iff spelled).mpr ⟨decimal, fits⟩⟩, rfl⟩

/-- What is written of a configuration is read as it. -/
theorem ofText_compact (c : EvaluatorConfig) : ofText c.toJson.compact = .ok c := by
  have written : (Data.object (Value.membersData [("max_attempts", .number c.maxAttempts.toNat)])).WrittenAs
      c.toJson.compact := c.toJson.writtenAs_write .compact
  rw [ofText_eq_ok_iff written rfl]
  exact Number.spells_toString_iff.mp (spells_decimal c.maxAttempts.toNat)

theorem compact_toJson (c : EvaluatorConfig) :
    c.toJson.compact = "\x7b\"max_attempts\":" ++ toString c.maxAttempts.toNat ++ "\x7d" := by
  rw [toJson, Value.compact, Value.compactMembers, Value.compactMembers, Value.compact, String.intercalate_singleton]
  rfl

end EvaluatorConfig

namespace Evaluator

theorem ofConfig_eq_ok_iff {c : EvaluatorConfig} {e : Evaluator} : ofConfig c = .ok e ↔ e.config = c := by
  constructor
  · intro made
    rcases Nat.eq_zero_or_pos c.maxAttempts.toNat with zero | positive
    · cases (ofConfig_of_zero zero).symm.trans made
    · cases (ofConfig_of_pos positive).symm.trans made
      rfl
  · rintro rfl
    exact ofConfig_of_pos e.positive

theorem ofConfig_ok_iff {c : EvaluatorConfig} : (∃ e, ofConfig c = .ok e) ↔ 1 ≤ c.maxAttempts.toNat := by
  simp only [ofConfig_eq_ok_iff]
  constructor
  · rintro ⟨e, rfl⟩
    exact e.positive
  · exact fun positive => ⟨⟨c, positive⟩, rfl⟩

end Evaluator

/-- In any text of an object with one number for the ceiling, among any members that a configuration does not know:
a configuration is read just if the number is the decimal text of its ceiling. So every integer of thirty-two bits
without a sign is read as itself and no other integer is read, nor a number with a fraction or an exponent, nor the
negative zero. The configuration makes an evaluator just if the ceiling is not zero; that evaluator's configuration is
written with the same ceiling, and what is written is read as the same configuration. -/
theorem config_read_from_number {text : String} {members : List (String × Data)} {n : Number}
    (written : (Data.object members).WrittenAs text) (given : Data.valuesOf "max_attempts" members = [.number n]) :
    (∀ c, EvaluatorConfig.ofText text = .ok c ↔ n.Spells (toString c.maxAttempts.toNat).toList) ∧
    (n.fraction.isSome ∨ n.exponent.isSome ∨ n.Spells "-0".toList → ∃ e, EvaluatorConfig.ofText text = .error e) ∧
    ∀ k : Int, n.Spells (toString k).toList →
      ((∃ c, EvaluatorConfig.ofText text = .ok c) ↔ 0 ≤ k ∧ k < 2 ^ 32) ∧
      ∀ c, EvaluatorConfig.ofText text = .ok c →
        (c.maxAttempts.toNat : Int) = k ∧ ((∃ e, Evaluator.ofConfig c = .ok e) ↔ 1 ≤ k) ∧
        ∀ e, Evaluator.ofConfig c = .ok e →
          e.config = c ∧ e.config.toJson.compact = "\x7b\"max_attempts\":" ++ toString k ++ "\x7d" ∧
          EvaluatorConfig.ofText e.config.toJson.compact = .ok c := by
  have reads : ∀ c, EvaluatorConfig.ofText text = .ok c ↔ n = .ofInt c.maxAttempts.toNat := fun c =>
    EvaluatorConfig.ofText_eq_ok_iff written given
  refine ⟨fun c => (reads c).trans Number.spells_toString_iff.symm, fun irregular => ?_, fun k decimal => ?_⟩
  · cases read : EvaluatorConfig.ofText text with
    | error e => exact ⟨e, rfl⟩
    | ok c =>
      rw [(reads c).mp read] at irregular
      rcases irregular with fraction | exponent | zero
      · cases fraction
      · cases exponent
      · have negative : (c.maxAttempts.toNat : Int) < 0 := decide_eq_true_iff.mp (zero.negative_iff.mpr rfl)
        exact absurd negative (Int.not_lt.mpr (Int.natCast_nonneg _))
  · obtain rfl := Number.spells_toString_iff.mp decimal
    have value : ∀ c, EvaluatorConfig.ofText text = .ok c ↔ (c.maxAttempts.toNat : Int) = k := fun c => by
      rw [reads, Number.ofInt_injective.eq_iff, eq_comm]
    simp only [value]
    refine ⟨⟨?_, fun range => ?_⟩, ?_⟩
    · rintro ⟨c, rfl⟩
      exact ⟨Int.natCast_nonneg _, by exact_mod_cast c.maxAttempts.toNat_lt_size⟩
    · refine ⟨⟨UInt32.ofNat k.toNat⟩, ?_⟩
      have small : k.toNat < UInt32.size := by
        simp only [UInt32.size]
        omega
      rw [UInt32.toNat_ofNat_of_lt' small]
      exact Int.toNat_of_nonneg range.1
    · rintro c rfl
      refine ⟨rfl, Evaluator.ofConfig_ok_iff.trans (by omega), fun e made => ?_⟩
      obtain rfl := Evaluator.ofConfig_eq_ok_iff.mp made
      exact ⟨rfl, e.config.compact_toJson, e.config.ofText_compact⟩

/-- The greatest ceiling, with blanks and after another member. -/
theorem config_read_from_number_greatest :
    let text := "\x7b\n  \"attempts\": [\n    7\n  ],\n  \"max_attempts\": 4294967295\n\x7d"
    let n : Number := ⟨false, "4294967295".toList, none, none⟩
    n.Spells (toString (4294967295 : Int)).toList ∧
      ∃ c, EvaluatorConfig.ofText text = .ok c ∧ (c.maxAttempts.toNat : Int) = 4294967295 := by
  intro text n
  let v : Value := .object [("attempts", .array [.number 7]), ("max_attempts", .number 4294967295)]
  have shown : v.write .pretty = text := by cbv
  have written : v.data.WrittenAs text := shown ▸ v.writtenAs_write .pretty
  have decimal : n.Spells (toString (4294967295 : Int)).toList := spells_decimal 4294967295
  have read := (config_read_from_number written rfl).2.2 4294967295 decimal
  obtain ⟨c, parsed⟩ := read.1.mpr (by decide)
  exact ⟨decimal, c, parsed, (read.2 c parsed).1⟩

end Adjudication
