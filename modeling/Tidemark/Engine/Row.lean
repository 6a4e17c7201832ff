import Tidemark.Json.Decode

/-!
# Rows

A row is the list of its fields in key order.  A field holds a plain scalar or a typed cell, an
object whose member `value` holds the scalar; cells may be nested.
-/

namespace Tidemark.Engine

/-- A row of a query result. -/
structure Row where
  fields : List (String × Json)
  deriving Repr

mutual

/-- The text of the scalar in a field: strings as they are, numbers and booleans as JSON text. -/
def scalarText : Json → Option String
  | .string s => some s
  | .number n => some (String.ofList n.render)
  | .bool true => some "true"
  | .bool false => some "false"
  | .object cell => cellText cell
  | .null => none
  | .array _ => none

/-- The text of the scalar in a typed cell. -/
def cellText : List (String × Json) → Option String
  | [] => none
  | (k, v) :: rest => if k = "value" then scalarText v else cellText rest

end

namespace Row

/-- The value of a field. -/
def get? (r : Row) (name : String) : Option Json :=
  Members.find? name r.fields

/-- The text of the scalar in a field. -/
def text? (r : Row) (name : String) : Option String :=
  (r.get? name).bind scalarText

/-- The number of fields. -/
def size (r : Row) : Nat :=
  r.fields.length

/-- The names of the fields. -/
def names (r : Row) : List String :=
  r.fields.map Prod.fst

/-- The row as a JSON object. -/
def toJson (r : Row) : Json :=
  .object r.fields

/-- The row as compact JSON text. -/
def render (r : Row) : String :=
  r.toJson.compact

/-- Reads a row from an object. -/
def decoder : Json.Decoder Row :=
  fun depth cs => (Json.Decoder.map Json.Decoder.value depth cs).map fun r => (⟨r.1⟩, r.2)

/-- Reads a row from a text. -/
def read (text : String) : Except Json.Fault Row :=
  Json.Decoder.readAll decoder text

end Row

/-- Rows as text, one line each. -/
def renderLines (rows : List Row) : String :=
  String.join (rows.map fun r => r.render ++ "\n")

end Tidemark.Engine
