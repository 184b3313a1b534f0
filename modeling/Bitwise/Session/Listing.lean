import Bitwise.Environment
import Bitwise.Radix

/-!
# Listing variables

The variables of a session, each with its value in base ten and its bit pattern in base sixteen.
-/

namespace Bitwise.Session

/-- The line for one variable. -/
def describe (name : String) (value : Int64) : String :=
  name ++ " = " ++ Radix.decimal.format value ++ " (0x" ++ Radix.hexadecimal.format value ++ ")"

/-- The lines for all variables, in the order of their names. -/
def listing (env : Environment) : String :=
  if env.isEmpty then "no variables assigned"
  else "\n".intercalate (env.bindings.map fun (name, value) => describe name value)

end Bitwise.Session
