/-!
# Verdicts

What a decision has staged so far. A verdict is decided once it is no longer `undefined`, and a decided
verdict is the same thing as a truth value.
-/

namespace Adjudication

/-- The outcome a decision has staged. -/
inductive Verdict where
  | accept
  | reject
  | undefined
  deriving DecidableEq, Repr

namespace Verdict

instance : Inhabited Verdict := ⟨.undefined⟩

def isDecided : Verdict → Bool
  | .undefined => false
  | _ => true

def toBool? : Verdict → Option Bool
  | .accept => some true
  | .reject => some false
  | .undefined => none

def ofBool : Bool → Verdict
  | true => .accept
  | false => .reject

def name : Verdict → String
  | .accept => "ACCEPT"
  | .reject => "REJECT"
  | .undefined => "UNDEFINED"

def label : Verdict → String
  | .accept => "Accept"
  | .reject => "Reject"
  | .undefined => "Undefined"

@[simp] theorem toBool?_ofBool (b : Bool) : (ofBool b).toBool? = some b := by
  cases b <;> rfl

theorem toBool?_eq_some_iff {v : Verdict} {b : Bool} : v.toBool? = some b ↔ v = ofBool b := by
  cases v <;> cases b <;> simp [toBool?, ofBool]

theorem toBool?_eq_none_iff {v : Verdict} : v.toBool? = none ↔ v = .undefined := by
  cases v <;> simp [toBool?]

end Verdict

end Adjudication
