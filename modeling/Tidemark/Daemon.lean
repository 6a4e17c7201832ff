import Tidemark.Cycle

/-!
# The daemon

The daemon runs the cycles of a job one after another and hands each batch of rows on.  It looks
for a signal to stop between cycles only, so that a cycle once begun is finished and its rows are
handed on.  A batch that is refused stops the daemon.
-/

namespace Tidemark.Daemon

/-- Why a daemon is to stop. -/
inductive Signal where
  /-- A request to stop was sent. -/
  | sent
  /-- Nobody is left who could send one. -/
  | dropped
  deriving DecidableEq, Repr

/-- What a daemon works with. -/
structure Surroundings (m : Type → Type) extends Tidemark.Surroundings m where
  /-- Waits until the next cycle is due or a signal to stop is there. -/
  wait : m Unit
  /-- The signal to stop, if there is one. -/
  signal : m (Option Signal)
  /-- Hands a batch of rows on. -/
  handOn : List Engine.Row → m (Except String Unit)

/-- What a cycle did: the number of rows, and the value of the watermark after it. -/
structure Stats where
  rows : Nat
  watermark : Option String
  deriving DecidableEq, Repr

/-- A cycle as the daemon saw it. -/
structure Report where
  rows : List Engine.Row
  stats : Stats
  journal : List Transition

/-- A batch that was refused, with the number of the cycle that read it. -/
structure Refusal where
  cycle : Nat
  reason : String
  deriving DecidableEq, Repr

namespace Refusal

/-- The wordings of a refusal, outermost first. -/
def chain (r : Refusal) : List String :=
  ["Failed to hand off rows from cycle " ++ toString r.cycle, r.reason]

end Refusal

variable {m : Type → Type} [Monad m]

/-- Runs one cycle and reports what it did. -/
def runOnce (env : Tidemark.Surroundings m) (c : Cycle) : m (Report × Cycle) := do
  let (rows, c) ← c.poll env
  return (⟨rows, ⟨rows.length, c.currentValue⟩, c.journal⟩, c)

/-- Hands on what a cycle gave, unless it gave nothing. -/
def deliver (env : Surroundings m) (cycle : Nat) (rows : List Engine.Row) :
    m (Except Refusal Unit) := do
  match rows with
  | [] => return .ok ()
  | rows => return (← env.handOn rows).mapError (Refusal.mk cycle)

/-- How a run of the daemon ends. -/
inductive Ending where
  | stopped (signal : Signal)
  | refused (refusal : Refusal)
  /-- As many cycles were run as were wanted. -/
  | paused
  deriving DecidableEq, Repr

namespace Ending

/-- What the one who started the daemon is told at its end. -/
def result : Ending → Except Refusal Unit
  | .refused refusal => .error refusal
  | _ => .ok ()

end Ending

/-- A run of the daemon: its cycles in order, the job after them, and how the run ended. -/
structure Run where
  reports : List Report
  cycle : Cycle
  ending : Ending

/-- Waits for the next cycle; a signal to stop goes first, even where a cycle is due. -/
def await (env : Surroundings m) : m (Option Signal) := do
  env.wait
  env.signal

/-- Runs cycles until a signal to stop or a refusal, at most the given number. -/
def run (env : Surroundings m) : Nat → Cycle → m Run
  | 0, c => return ⟨[], c, .paused⟩
  | limit + 1, c => do
    match ← await env with
    | some signal => return ⟨[], c, .stopped signal⟩
    | none =>
      let (report, c) ← runOnce env.toSurroundings c
      match ← deliver env c.count report.rows with
      | .error refusal => return ⟨[report], c, .refused refusal⟩
      | .ok () =>
        let rest ← run env limit c
        return { rest with reports := report :: rest.reports }

end Tidemark.Daemon
