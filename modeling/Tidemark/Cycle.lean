import Tidemark.Engine.Basic
import Tidemark.Engine.MaxValue
import Tidemark.Query.Rewriter
import Tidemark.Watermark.Store

/-!
# Extraction cycles

A cycle retrieves the watermark, reads the rows above it, asks for the greatest value of the page
at the point in time at which the rows were read, and records that value.  Whatever fails on the
way, the watermark stays where it was, so that the next cycle reads the same rows again.
-/

namespace Tidemark

/-- What a job is doing. -/
inductive Phase where
  | idle
  | building
  | executingRows
  | executingMax
  | persisting
  deriving DecidableEq, Repr

namespace Phase

/-- The name of a phase. -/
def name : Phase → String
  | .idle => "idle"
  | .building => "building"
  | .executingRows => "executing-rows"
  | .executingMax => "executing-max"
  | .persisting => "persisting"

end Phase

/-- A change of phase in a numbered cycle. -/
structure Transition where
  cycle : Nat
  source : Phase
  target : Phase
  deriving DecidableEq, Repr

namespace Transition

/-- A change of phase as a line of a log. -/
def render (t : Transition) : String :=
  "Cycle " ++ toString t.cycle ++ ": " ++ t.source.name ++ " -> " ++ t.target.name

end Transition

/-- Why a cycle gives no rows. -/
inductive CycleError where
  | execution (query : String) (source : Engine.EngineError)
  | malformedMaxValue (query : String) (source : Engine.MaxValueError)
  | store (source : Watermark.StoreError)
  deriving DecidableEq, Repr

namespace CycleError

/-- The wording of an error. -/
def message : CycleError → String
  | .execution query _ => "query execution failed: " ++ query
  | .malformedMaxValue query _ => "malformed max-value result for query: " ++ query
  | .store _ => "watermark store failure"

/-- Whether the stored watermark itself is wrong, so that someone has to look at it. -/
def isStateCorruption : CycleError → Bool
  | .store source => source.isCorruption
  | _ => false

end CycleError

/-- What a job works with: its engine, the backend of its store, and a clock. -/
structure Surroundings (m : Type → Type) where
  engine : Engine.QueryEngine m
  documents : Storage.DocumentBackend m
  now : m Time.Instant

/-- A job between or during its cycles. -/
structure Cycle where
  rewriter : Query.Rewriter
  store : Watermark.Store
  phase : Phase
  /-- The number of cycles begun. -/
  count : Nat
  /-- The changes of phase in the cycle begun last, oldest first. -/
  journal : List Transition

namespace Cycle

/-- A job before its first cycle. -/
def new (rewriter : Query.Rewriter) (store : Watermark.Store) : Cycle :=
  ⟨rewriter, store, .idle, 0, []⟩

/-- The value of the watermark that was last read or written. -/
def currentValue (c : Cycle) : Option String :=
  c.store.current.value

/-- The job in another phase; a phase that does not change is not noted. -/
def enter (c : Cycle) (p : Phase) : Cycle :=
  if c.phase = p then c
  else { c with phase := p, journal := c.journal ++ [⟨c.count, c.phase, p⟩] }

@[simp] theorem phase_enter (c : Cycle) (p : Phase) : (c.enter p).phase = p := by
  unfold enter
  split
  · assumption
  · rfl

@[simp] theorem rewriter_enter (c : Cycle) (p : Phase) : (c.enter p).rewriter = c.rewriter := by
  unfold enter
  split <;> rfl

@[simp] theorem store_enter (c : Cycle) (p : Phase) : (c.enter p).store = c.store := by
  unfold enter
  split <;> rfl

@[simp] theorem count_enter (c : Cycle) (p : Phase) : (c.enter p).count = c.count := by
  unfold enter
  split <;> rfl

theorem journal_enter (c : Cycle) {p : Phase} (h : c.phase ≠ p) :
    (c.enter p).journal = c.journal ++ [⟨c.count, c.phase, p⟩] := by
  simp [enter, h]

/-- The job at the start of its next cycle. -/
def begin (c : Cycle) : Cycle :=
  { c with count := c.count + 1, journal := [] }

/-- What a cycle gives, and the job after it. -/
abbrev Outcome := Except CycleError (List Engine.Row) × Cycle

variable {m : Type → Type} [Monad m]

/-- Records the greatest value of the rows that were read. -/
def persist (env : Surroundings m) (rows : List Engine.Row) (value : String) (c : Cycle) :
    m Outcome := do
  let c := c.enter .persisting
  let mark := ⟨value, UInt64.ofNat rows.length, ← env.now⟩
  let (result, store) ← c.store.record env.documents mark
  let c := { c with store }
  match result with
  | .error e => return (.error (.store e), c)
  | .ok () => return (.ok rows, c)

/-- Asks for the greatest value of the rows that were read, at the same point in time. -/
def advance (env : Surroundings m) (result : Engine.QueryResult) (plan : Query.Plan) (c : Cycle) :
    m Outcome := do
  let c := c.enter .executingMax
  match ← env.engine.execute plan (some result.token) with
  | .error e => return (.error (.execution plan.queryText e), c)
  | .ok answer =>
    match Engine.maxValue answer.rows with
    | .error e => return (.error (.malformedMaxValue plan.queryText e), c)
    | .ok value => persist env result.rows value c

/-- Reads the rows above a previous value. -/
def readRows (env : Surroundings m) (previous : Option String) (c : Cycle) : m Outcome := do
  let (plan, rewriter) := c.rewriter.rowPlan previous
  let c := { c with rewriter }.enter .executingRows
  match ← env.engine.execute plan none with
  | .error e => return (.error (.execution plan.queryText e), c)
  | .ok result =>
    match result.rows, c.rewriter.maxPlan with
    | [], _ => return (.ok [], c)
    | rows, none => return (.ok rows, c)
    | _, some plan => advance env result plan c

/-- The value that the rows must exceed.  A job without a constraint does not ask its store. -/
def previousValue (env : Surroundings m) (c : Cycle) :
    m (Except Watermark.StoreError (Option String) × Cycle) := do
  if c.rewriter.isConstrained then
    let (result, store) ← c.store.retrieve env.documents
    return (result, { c with store })
  else return (.ok none, c)

/-- The work of a cycle from the retrieval of the watermark on. -/
def run (env : Surroundings m) (c : Cycle) : m Outcome := do
  let (previous, c) ← previousValue env (c.enter .building)
  match previous with
  | .error e => return (.error (.store e), c)
  | .ok previous => readRows env previous c

/-- Runs one cycle. -/
def tryPoll (env : Surroundings m) (c : Cycle) : m Outcome := do
  let (result, c) ← run env c.begin
  return (result, c.enter .idle)

/-- Runs one cycle; one that fails gives no rows. -/
def poll (env : Surroundings m) (c : Cycle) : m (List Engine.Row × Cycle) := do
  let (result, c) ← tryPoll env c
  match result with
  | .ok rows => return (rows, c)
  | .error _ => return ([], c)

end Cycle

end Tidemark
