import Tidemark.Engine.Row
import Tidemark.Query.Rewriter

/-!
# The value that a max-value plan returns

The answer to a max-value plan must be one row with a scalar in the field of the greatest value.
Anything else is an error: an old value is never kept in silence.
-/

namespace Tidemark.Engine

/-- Why the answer to a max-value plan has no value. -/
inductive MaxValueError where
  | noRows
  | tooManyRows (count : Nat)
  | missingField (name : String)
  | notScalar (name : String)
  deriving DecidableEq, Repr

namespace MaxValueError

/-- The wording of an error. -/
def message : MaxValueError → String
  | .noRows => "max-value query returned no rows"
  | .tooManyRows count =>
    "max-value query returned " ++ toString count ++ " rows, expected 1"
  | .missingField name => "max-value row has no '" ++ name ++ "' field"
  | .notScalar name => "max-value field '" ++ name ++ "' is null or not a scalar"

end MaxValueError

/-- The sanitized greatest value in the answer to a max-value plan. -/
def maxValue : List Row → Except MaxValueError String
  | [] => .error .noRows
  | [row] =>
    match row.get? Query.Rewriter.maxField with
    | none => .error (.missingField Query.Rewriter.maxField)
    | some cell =>
      match scalarText cell with
      | none => .error (.notScalar Query.Rewriter.maxField)
      | some text => .ok (Query.sanitize text)
  | rows => .error (.tooManyRows rows.length)

end Tidemark.Engine
