import Adjudication.Text.Alphabetic
import Adjudication.Text.Numeric

/-!
# Letters and numerals
-/

namespace Adjudication.Text

def isAlphanumeric (c : Char) : Bool := isAlphabetic c || isNumeric c

end Adjudication.Text
