import Tidemark.Json.Printer
import Tidemark.Text.Quoted

/-!
# What can be wrong with a JSON text

Reading a text goes from left to right and stops at the first thing that is wrong: a place where
the text is no JSON, or a value that is not what is wanted there.
-/

namespace Tidemark.Json

/-- What stands where something else is wanted. -/
inductive Found where
  | null
  | bool (b : Bool)
  | number (n : Numeral)
  | string (s : String)
  | sequence
  | map
  deriving DecidableEq, Repr

namespace Found

/-- The wording of what was found. -/
def message : Found → String
  | .null => "null"
  | .bool true => "boolean `true`"
  | .bool false => "boolean `false`"
  | .number (.integer n) => "integer `" ++ String.ofList (Numeral.renderInt n) ++ "`"
  | .number (.real x) => "floating point `" ++ x.render realLayout ++ "`"
  | .string s => "string " ++ Text.quoted s
  | .sequence => "sequence"
  | .map => "map"

end Found

/-- Why a text is not read. -/
inductive Fault where
  /-- The text is not JSON, is nested too deeply or holds a number out of range. -/
  | malformed
  | wrongType (found : Found) (wanted : String)
  | missingField (name : String)
  | duplicateField (name : String)
  | invalidLength (length : Nat) (shape : String) (size : Nat)
  /-- A string has the right type but is refused by the rule for its content. -/
  | refused (reason : String)
  deriving DecidableEq, Repr

namespace Fault

/-- The wording of a fault. -/
def message : Fault → String
  | .malformed => "json syntax error"
  | .wrongType found wanted => "invalid type: " ++ found.message ++ ", expected " ++ wanted
  | .missingField name => "missing field `" ++ name ++ "`"
  | .duplicateField name => "duplicate field `" ++ name ++ "`"
  | .invalidLength length shape size =>
    "invalid length " ++ toString length ++ ", expected struct " ++ shape ++ " with "
      ++ toString size ++ (if size = 1 then " element" else " elements")
  | .refused reason => reason

end Fault

end Tidemark.Json
