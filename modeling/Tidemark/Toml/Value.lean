import Tidemark.Number.Shortest

/-!
# TOML values

The members of a table are kept in the order in which they were defined.  A date or a time is a
value of its own kind; what it says does not matter here.
-/

namespace Tidemark.Toml

/-- A TOML float. -/
inductive Real where
  | finite (x : Number.Binary64)
  | infinite (negative : Bool)
  | nan
  deriving DecidableEq, Repr

namespace Real

/-- Floats are written without an exponent, whatever their size. -/
def layout : Number.Layout := ⟨-400, 400⟩

/-- The text of a float in messages. -/
def render : Real → String
  | .finite x => x.render layout
  | .infinite false => "inf"
  | .infinite true => "-inf"
  | .nan => "NaN"

end Real

/-- A TOML value. -/
inductive Value where
  | string (s : String)
  | integer (n : Int)
  | real (x : Real)
  | boolean (b : Bool)
  /-- A date, a time or both. -/
  | moment
  | array (items : List Value)
  | table (members : List (String × Value))
  deriving Repr

end Tidemark.Toml
