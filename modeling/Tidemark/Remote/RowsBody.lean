import Tidemark.Engine.Row
import Tidemark.Text.Blank

/-!
# The body of an answer with rows

The query service answers with an object of columns and rows, both of which may be absent.  A blank
body is an answer without rows.
-/

namespace Tidemark.Remote

/-- The column names and the rows of an answer. -/
structure RowsBody where
  columns : List String
  rows : List Engine.Row
  deriving Repr

namespace RowsBody

/-- An answer without rows. -/
def empty : RowsBody := ⟨[], []⟩

/-- The field of a column that names it. -/
def columnFields : List (Json.Decoder.FieldDecoder String) :=
  [{ name := "name", optional := false, read := fun _ => Json.Decoder.string }]

/-- Reads a column. -/
def columnDecoder : Json.Decoder String :=
  Json.Decoder.record "ColumnHeader" columnFields ""

/-- The fields of an answer. -/
def fields : List (Json.Decoder.FieldDecoder RowsBody) :=
  [{ name := "columns"
     optional := true
     read := fun b depth cs =>
      (Json.Decoder.list columnDecoder depth cs).map fun r => ({ b with columns := r.1 }, r.2) },
    { name := "rows"
      optional := true
      read := fun b depth cs =>
        (Json.Decoder.list Engine.Row.decoder depth cs).map fun r =>
          ({ b with rows := r.1 }, r.2) }]

/-- Reads an answer. -/
def decoder : Json.Decoder RowsBody :=
  Json.Decoder.record "RowsResponse" fields empty

/-- Reads the text of a body. -/
def read (text : String) : Except Json.Fault RowsBody :=
  if Text.isBlankText text then .ok empty else Json.Decoder.readAll decoder text

end RowsBody

end Tidemark.Remote
