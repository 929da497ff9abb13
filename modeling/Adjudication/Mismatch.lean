import Adjudication.Decimal.FloatText
import Adjudication.Text.Quoted

/-!
# Mismatches

Why a text gives no data: it is malformed, or what it holds is not what was asked for.
-/

namespace Adjudication

inductive Found where
  | null
  | boolean (value : Bool)
  | integer (value : Int)
  | float (value : Float)
  | string (value : String)
  | sequence
  | map

inductive Mismatch where
  | invalidType (found : Found) (wanted : String)
  | invalidValue (found : Found) (wanted : String)
  | invalidLength (length : Nat) (wanted : String)
  | unknownVariant (name : String) (known : List String)
  | missingField (name : String)
  | duplicateField (name : String)

inductive DecodeError where
  | malformed
  | mismatch (mismatch : Mismatch)

def Found.describe (style : Decimal.FloatStyle) : Found → String
  | .null => "null"
  | .boolean value => "boolean `" ++ toString value ++ "`"
  | .integer value => "integer `" ++ toString value ++ "`"
  | .float value => "floating point `" ++ style.text value ++ "`"
  | .string value => "string " ++ Text.quote value
  | .sequence => "sequence"
  | .map => "map"

/-- The message for a mismatch; floating-point numbers are written in the given style. -/
def Mismatch.message (style : Decimal.FloatStyle) : Mismatch → String
  | .invalidType found wanted => "invalid type: " ++ found.describe style ++ ", expected " ++ wanted
  | .invalidValue found wanted => "invalid value: " ++ found.describe style ++ ", expected " ++ wanted
  | .invalidLength length wanted => "invalid length " ++ toString length ++ ", expected " ++ wanted
  | .unknownVariant name known =>
    "unknown variant `" ++ name ++ "`, expected one of " ++
      String.intercalate ", " (known.map fun variant => "`" ++ variant ++ "`")
  | .missingField name => "missing field `" ++ name ++ "`"
  | .duplicateField name => "duplicate field `" ++ name ++ "`"

end Adjudication
