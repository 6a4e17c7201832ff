import Tidemark.Json.Decode
import Tidemark.Text.Count
import Tidemark.Time.Timestamp

/-!
# Watermarks and the documents that hold them

A watermark belongs to a constraint column and, once rows were read, holds the greatest value seen,
the number of rows that led to it and the time.  A document is its stored form: four texts, the
time as a timestamp and the number in decimal.
-/

namespace Tidemark

/-- What a cycle leaves behind: the greatest value, the number of rows read, and the time. -/
structure Mark where
  value : String
  rowCount : UInt64
  observedAt : Time.Instant
  deriving DecidableEq, Repr

/-- The progress of a job on its constraint column. -/
structure Watermark where
  column : String
  mark : Option Mark
  deriving DecidableEq, Repr

namespace Watermark

/-- The watermark of a job that has read no rows. -/
def empty (column : String) : Watermark := ⟨column, none⟩

/-- The greatest value seen. -/
def value (w : Watermark) : Option String :=
  w.mark.map Mark.value

/-- The number of rows that led to the value. -/
def rowCount (w : Watermark) : UInt64 :=
  (w.mark.map Mark.rowCount).getD 0

/-- The watermark after a cycle. -/
def update (w : Watermark) (mark : Mark) : Watermark :=
  { w with mark := some mark }

/-- The stored form of a watermark. -/
structure Document where
  lastUpdated : Time.Instant
  constraintColumn : String
  lastValue : String
  rowCount : String
  deriving DecidableEq, Repr

/-- The stored form of a watermark that has a value. -/
def toDocument (w : Watermark) : Option Document :=
  w.mark.map fun m => ⟨m.observedAt, w.column, m.value, Text.Count.render m.rowCount⟩

/-- A row count that is no count. -/
structure RowCountFault where
  raw : String
  fault : Text.CountFault
  deriving DecidableEq, Repr

namespace RowCountFault

/-- The wording of a fault. -/
def message (f : RowCountFault) : String :=
  "rowCount '" ++ f.raw ++ "' is not a number: " ++ f.fault.message

end RowCountFault

namespace Document

/-- The watermark that a document stores. -/
def toWatermark (d : Document) : Except RowCountFault Watermark :=
  match Text.Count.readTrimmed d.rowCount with
  | .ok n => .ok ⟨d.constraintColumn, some ⟨d.lastValue, n, d.lastUpdated⟩⟩
  | .error f => .error ⟨d.rowCount, f⟩

/-- The members of a document, in the order in which they are declared. -/
def members (d : Document) : List (String × Json) :=
  [("lastUpdated", .string d.lastUpdated.render), ("constraintColumn", .string d.constraintColumn),
    ("lastValue", .string d.lastValue), ("rowCount", .string d.rowCount)]

/-- The document as a JSON value in key order. -/
def toJson (d : Document) : Json :=
  Json.ofMembers d.members

/-- The document as pretty text, its members in the order of declaration. -/
def pretty (d : Document) : String :=
  Json.pretty (.object d.members)

/-- The name of the record in messages. -/
def shape : String := "WatermarkDocument"

/-- What is wanted where a timestamp stands. -/
def timestampWanted : String := "an RFC 3339 formatted date and time string"

/-- Reads a timestamp from a string. -/
def instantDecoder : Json.Decoder Time.Instant :=
  Json.Decoder.stringWith timestampWanted fun s =>
    (Time.Timestamp.read s).mapError Time.TimestampFault.message

/-- A field read by a decoder and put into the record. -/
def field {α : Type} (name : String) (decoder : Json.Decoder α) (put : Document → α → Document) :
    Json.Decoder.FieldDecoder Document where
  name := name
  optional := false
  read := fun d depth cs => (decoder depth cs).map fun r => (put d r.1, r.2)

/-- The fields of a document; each must be present. -/
def fields : List (Json.Decoder.FieldDecoder Document) :=
  [field "lastUpdated" instantDecoder fun d t => { d with lastUpdated := t },
    field "constraintColumn" Json.Decoder.string fun d s => { d with constraintColumn := s },
    field "lastValue" Json.Decoder.string fun d s => { d with lastValue := s },
    field "rowCount" Json.Decoder.string fun d s => { d with rowCount := s }]

/-- The record that the fields are read into. -/
def blank : Document :=
  ⟨⟨1970, 1, 1, 0, 0, 0, 0⟩, "", "", ""⟩

/-- Reads a document. -/
def decoder : Json.Decoder Document :=
  Json.Decoder.record shape fields blank

/-- Reads a document from a text. -/
def read (text : String) : Except Json.Fault Document :=
  Json.Decoder.readAll decoder text

end Document

end Watermark

end Tidemark
