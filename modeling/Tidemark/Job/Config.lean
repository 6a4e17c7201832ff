import Tidemark.Toml.Decode

/-!
# The description of a job

A job is described by a TOML text in four sections: how it runs, what it asks, whom it asks, and
where its watermark is kept.  Without the last section the watermark lives as long as the job runs.
-/

namespace Tidemark.Job

/-- How the job runs. -/
structure Running where
  name : String := "highwater"
  /-- The number of workers; only one may move a watermark. -/
  tasks : UInt32 := 1
  pollIntervalMs : UInt64 := 5000
  deriving DecidableEq, Repr

/-- What the job asks, as query text or as a plan tree in JSON text. -/
structure Question where
  dsl : Option String := none
  serialized : Option String := none
  constraintColumn : Option String := none
  rowLimit : Option UInt64 := none
  deriving DecidableEq, Repr

/-- The query service that the job asks. -/
structure Service where
  url : String := ""
  apiKey : Option String := none
  timeoutSecs : UInt64 := 30
  deriving DecidableEq, Repr

/-- Where the watermark is kept: at the query service, or below a directory. -/
structure State where
  uri : String := ""
  permissions : String := ""
  collections : List String := []
  directory : Option String := none
  deriving DecidableEq, Repr

/-- The description of a job. -/
structure Config where
  running : Running := {}
  question : Question := {}
  service : Service := {}
  state : Option State := none
  deriving DecidableEq, Repr

/-! ### Reading -/

open Toml.Decoder

namespace Running

/-- The fields of the section, all of which may be absent. -/
def fields : List (FieldDecoder Running) :=
  [field "name" true string fun r s => { r with name := s },
    field "tasks" true uint32 fun r n => { r with tasks := n },
    field "poll_interval_ms" true uint64 fun r n => { r with pollIntervalMs := n }]

/-- Reads the section. -/
def decoder : Toml.Decoder Running :=
  record "JobSection" fields {}

end Running

namespace Question

/-- The fields of the section, all of which may be absent. -/
def fields : List (FieldDecoder Question) :=
  [field "dsl" true string fun q s => { q with dsl := some s },
    field "serialized" true string fun q s => { q with serialized := some s },
    field "constraint_column" true string fun q s => { q with constraintColumn := some s },
    field "row_limit" true uint64 fun q n => { q with rowLimit := some n }]

/-- Reads the section. -/
def decoder : Toml.Decoder Question :=
  record "QuerySection" fields {}

end Question

namespace Service

/-- The fields of the section; the URL must be present. -/
def fields : List (FieldDecoder Service) :=
  [field "url" false string fun e s => { e with url := s },
    field "api_key" true string fun e s => { e with apiKey := some s },
    field "timeout_secs" true uint64 fun e n => { e with timeoutSecs := n }]

/-- Reads the section. -/
def decoder : Toml.Decoder Service :=
  record "EngineSection" fields {}

end Service

namespace State

/-- The fields of the section; the URI must be present. -/
def fields : List (FieldDecoder State) :=
  [field "uri" false string fun s v => { s with uri := v },
    field "permissions" true string fun s v => { s with permissions := v },
    field "collections" true (list string) fun s vs => { s with collections := vs },
    field "directory" true (stringFor "path string") fun s v => { s with directory := some v }]

/-- Reads the section. -/
def decoder : Toml.Decoder State :=
  record "StateSection" fields {}

end State

namespace Config

/-- The sections of a description; what the job asks, and whom, must be present. -/
def fields : List (FieldDecoder Config) :=
  [field "job" true Running.decoder fun c r => { c with running := r },
    field "query" false Question.decoder fun c q => { c with question := q },
    field "engine" false Service.decoder fun c e => { c with service := e },
    field "state" true State.decoder fun c s => { c with state := some s }]

/-- Reads a description from a text, without judging it. -/
def decode (text : String) : Except Toml.Fault Config :=
  readAll fields {} text

end Config

end Tidemark.Job
