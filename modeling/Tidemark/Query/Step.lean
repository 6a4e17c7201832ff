import Tidemark.Json.Basic
import Tidemark.Query.Literal
import Tidemark.Text.Count

/-!
# Pipeline steps

A query is extended by steps at its end: keep the rows above a value, sort, cut off, project.  A
step has two images.  The text image is a method call whose literals are sanitized; the tree image
is a JSON object that carries names and values as they are.
-/

namespace Tidemark.Query

/-- The direction of a sort. -/
inductive Direction where
  | ascending
  | descending
  deriving DecidableEq, Repr

/-- A step of a query pipeline. -/
inductive Step where
  /-- Keep the rows whose column is greater than a value. -/
  | whereGreater (column value : String)
  | orderBy (direction : Direction) (column : String)
  | limit (count : UInt64)
  /-- Keep one column, under another name. -/
  | selectAs (field column : String)
  deriving DecidableEq, Repr

namespace Direction

/-- The operator that names the direction. -/
def operator : Direction → String
  | .ascending => "asc"
  | .descending => "desc"

end Direction

namespace Step

/-! ### The text image -/

/-- A literal of the query language. -/
def literal (s : String) : String :=
  "'" ++ sanitize s ++ "'"

/-- A reference to a column in the query language. -/
def columnText (column : String) : String :=
  "op.col(" ++ literal column ++ ")"

/-- The call that appends the step to a query text. -/
def text : Step → String
  | .whereGreater column value =>
    ".where(op.gt(" ++ columnText column ++ ", " ++ literal value ++ "))"
  | .orderBy direction column =>
    ".orderBy(op." ++ direction.operator ++ "(" ++ columnText column ++ "))"
  | .limit count => ".limit(" ++ Text.Count.render count ++ ")"
  | .selectAs field column => ".select(op.as(" ++ literal field ++ ", " ++ columnText column ++ "))"

/-! ### The tree image -/

/-- An operator applied to arguments. -/
def call (name : String) (args : List Json) : Json :=
  .object [("args", .array args), ("fn", .string name), ("ns", .string "op")]

/-- A reference to a column in a plan tree. -/
def columnTree (column : String) : Json :=
  call "col" [.string column]

/-- The object that appends the step to a plan tree. -/
def tree : Step → Json
  | .whereGreater column value => call "where" [call "gt" [columnTree column, .string value]]
  | .orderBy direction column => call "order-by" [call direction.operator [columnTree column]]
  | .limit count => call "limit" [Json.ofInt count.toNat]
  | .selectAs field column =>
    call "select" [.array [call "as" [.string field, columnTree column]]]

theorem isObject_tree (s : Step) : s.tree.isObject = true := by
  cases s <;> rfl

end Step

end Tidemark.Query
