import Tidemark.Engine.Row
import Tidemark.Query.Plan
import Tidemark.Text.Count
import Tidemark.Url.Fault

/-!
# Query engines

An engine evaluates a plan at a point in time.  Without a requested point it reads the newest state
and names it in the answer, so that a later plan can be evaluated at the same state.
-/

namespace Tidemark.Engine

/-- A state of the data that an engine can be asked to read again. -/
structure PointInTime where
  value : UInt64
  deriving DecidableEq, Repr

namespace PointInTime

/-- A point in time in decimal. -/
def render (t : PointInTime) : String :=
  Text.Count.render t.value

/-- Reads a point in time, blanks at either end aside. -/
def read (s : String) : Except Text.CountFault PointInTime :=
  (Text.Count.readTrimmed s).map PointInTime.mk

end PointInTime

/-- The answer of an engine: rows, and the point in time at which they were read. -/
structure QueryResult where
  rows : List Row
  token : PointInTime
  deriving Repr

/-- Why an engine gives no answer. -/
inductive EngineError where
  /-- The request did not reach the engine, or its answer did not come back. -/
  | transport
  | status (code : Nat) (body : String)
  | undecodable (reason : String)
  | url (fault : Url.Fault)
  | other (reason : String)
  deriving DecidableEq, Repr

namespace EngineError

/-- The wording of an error. -/
def message : EngineError → String
  | .transport => "request to query engine failed"
  | .status code body => "query engine returned status " ++ toString code ++ ": " ++ body
  | .undecodable reason => "failed to decode query engine response: " ++ reason
  | .url fault => "invalid query engine URL: " ++ fault.message
  | .other reason => "query engine error: " ++ reason

end EngineError

/-- An engine whose calls are effects of `m`. -/
structure QueryEngine (m : Type → Type) where
  execute : Query.Plan → Option PointInTime → m (Except EngineError QueryResult)

end Tidemark.Engine
