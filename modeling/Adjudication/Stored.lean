import Adjudication.Evaluator
import Adjudication.Json.Decode
import Adjudication.Json.Value

/-!
# Stored verdicts and evaluator configurations

Verdicts and evaluator configurations as JSON.
-/

namespace Adjudication

open Json

/-- The verdicts by their stored names. -/
def Verdict.variants : List (String × Verdict) := [
  ("ACCEPT", .accept), ("REJECT", .reject), ("UNDEFINED", .undefined)]

def Verdict.decoder : Decoder Verdict := Decoder.enum variants

namespace EvaluatorConfig

/-- How an evaluator configuration is read; the ceiling is the default one when it is left out. -/
def record : Record (Option UInt32) EvaluatorConfig where
  name := "EvaluatorConfig"
  start := none
  finish := fun ceiling => .ok (match ceiling with
    | some n => ⟨n⟩
    | none => {})
  fields := [
    { name := "max_attempts", required := false, isKnown := Option.isSome
      read := fun tree _ => do pure (some (← Decoder.uint32 tree)) }]

def decoder : Decoder EvaluatorConfig := record.decode

def ofText (text : String) : Except DecodeError EvaluatorConfig := decodeText decoder text

def toJson (config : EvaluatorConfig) : Value := .object [("max_attempts", .number config.maxAttempts.toNat)]

end EvaluatorConfig

end Adjudication
