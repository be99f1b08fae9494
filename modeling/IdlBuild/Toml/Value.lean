import IdlBuild.Text.Floating

/-!
# Configuration values

What a TOML document holds, once it is read. Of a number that no machine number holds only the kind
is kept: nothing can be done with it but to refuse it.
-/

namespace IdlBuild.Toml

/-- A floating-point value. -/
inductive Number where
  | finite (negative : Bool) (magnitude : Text.Binary)
  | infinite (negative : Bool)
  | notANumber
deriving DecidableEq, Repr

/-- How a number is shown. -/
def Number.shown : Number → String
  | finite negative magnitude => (if negative then "-" else "") ++ magnitude.positional
  | infinite negative => if negative then "-inf" else "inf"
  | notANumber => "NaN"

/-- A value of a document. -/
inductive Value where
  | string (text : String)
  | integer (number : Int)
  /-- A number outside every range, a whole one or another. -/
  | oversized (whole : Bool)
  | number (value : Number)
  | boolean (value : Bool)
  | dateTime
  | array (elements : List Value)
  | table (entries : List (String × Value))
deriving Inhabited

end IdlBuild.Toml
