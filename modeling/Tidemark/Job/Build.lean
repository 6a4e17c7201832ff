import Tidemark.Job.Check
import Tidemark.Query.Rewriter
import Tidemark.Watermark.Store

/-!
# What a description builds

A description determines the constraint of its job, the rewriter of its query, and the store of its
watermark.
-/

namespace Tidemark.Job

/-- Why a description has no rewriter. -/
inductive RewriterError where
  | notJson (fault : Json.Fault)
  | shape (fault : Query.ShapeFault)
  | noQuery
  deriving DecidableEq, Repr

namespace RewriterError

/-- The wordings of an error, outermost first. -/
def chain : RewriterError → List String
  | .notJson fault => ["query.serialized is not valid JSON", fault.message]
  | .shape fault => [fault.message]
  | .noQuery => ConfigError.noQuery.chain

end RewriterError

namespace Question

/-- The constraint of a job; a blank column counts as none. -/
def constraint (q : Question) : Option Query.Constraint :=
  q.constraintColumn.bind fun column => Query.Constraint.ofColumn? column q.rowLimit

/-- The base query of a job. -/
def base (q : Question) : Except RewriterError Query.Base :=
  match q.dsl, q.serialized with
  | some dsl, _ => .ok (.text dsl)
  | none, some serialized =>
    match Json.read serialized with
    | .error fault => .error (.notJson fault)
    | .ok root => (Query.Base.ofTree root).mapError .shape
  | none, none => .error .noQuery

end Question

namespace State

/-- The location of the document that holds the watermark. -/
def location (s : State) : Storage.Location :=
  ⟨s.uri, s.permissions, s.collections⟩

end State

namespace Config

/-- The constraint of the job. -/
def constraint (c : Config) : Option Query.Constraint :=
  c.question.constraint

/-- The rewriter of the job. -/
def rewriter (c : Config) : Except RewriterError Query.Rewriter :=
  c.question.base.map fun base => .new base c.constraint

/-- The column that the watermark of the job belongs to. -/
def column (c : Config) : String :=
  (c.constraint.map Query.Constraint.column).getD ""

/-- The store of the job. -/
def store (c : Config) : Watermark.Store :=
  match c.state with
  | none => .inMemory c.column
  | some s => .durable c.column s.location

/-- The time between two cycles, in milliseconds. -/
def pollIntervalMs (c : Config) : Nat :=
  c.running.pollIntervalMs.toNat

/-- The time after which the query service counts as unreachable, in milliseconds. -/
def timeoutMs (c : Config) : Nat :=
  c.service.timeoutSecs.toNat * 1000

end Config

end Tidemark.Job
