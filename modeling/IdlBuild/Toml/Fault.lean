/-!
# Faults of documents

A document is refused either because it is not TOML at all, or because it is and holds something
that its reader has no use for.
-/

namespace IdlBuild.Toml

/-- Why a well-formed document does not fit its reader. -/
inductive Misfit where
  /-- A key that means nothing; the keys that do are known. -/
  | unknownKey (key : String) (known : List String)
  /-- A value of another type. -/
  | wrongType (found expected : String)
  /-- A value of the right type that is out of range. -/
  | wrongValue (found expected : String)
  /-- A number, whole or not, outside every range. -/
  | overflow (whole : Bool)
deriving DecidableEq, Repr

/-- How a misfit is shown. -/
def Misfit.message : Misfit → String
  | .unknownKey key known =>
    s!"unknown field `{key}`, expected one of " ++
      ", ".intercalate (known.map fun k => s!"`{k}`")
  | .wrongType found expected => s!"invalid type: {found}, expected {expected}"
  | .wrongValue found expected => s!"invalid value: {found}, expected {expected}"
  | .overflow whole => (if whole then "integer" else "floating-point") ++ " number overflowed"

/-- Why a document was refused. -/
inductive Fault where
  | malformed
  | unfit (misfit : Misfit)
deriving DecidableEq, Repr

/-- How a fault is shown. -/
def Fault.message : Fault → String
  | .malformed => "TOML parse error"
  | .unfit misfit => misfit.message

end IdlBuild.Toml
