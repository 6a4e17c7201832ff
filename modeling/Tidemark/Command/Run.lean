import Tidemark.Command.Arguments
import Tidemark.Daemon
import Tidemark.Job.Build
import Tidemark.Remote.Client
import Tidemark.Storage.Directory

/-!
# Carrying out commands

A command works on a machine: its files, its network, its clock and its output.  Whatever goes wrong
is a list of messages, the outermost first.
-/

namespace Tidemark.Command

/-- The name of the program and its version. -/
def versionText : String := "highwater 0.1.0\n"

/-- What a command can use. -/
structure Machine (m : Type → Type) where
  /-- The text of the file at a path. -/
  readText : String → m (Except Storage.IoFault String)
  /-- The files below the directory that a description names. -/
  fileSystem : Storage.FileSystem m
  /-- The network, where an answer is awaited for so many milliseconds. -/
  transport : Nat → Remote.Transport m
  now : m Time.Instant
  /-- Waits for the next cycle, so many milliseconds after the one before, or for a signal. -/
  wait : Nat → m Unit
  signal : m (Option Daemon.Signal)
  print : String → m (Except String Unit)

/-- What went wrong, outermost first. -/
abbrev Trouble := List String

/-! ### What commands print -/

/-- The text that says that a description is valid. -/
def validText (config : Job.Config) (plan : Query.Plan) : String :=
  "✓ Job '" ++ config.running.name ++ "' is valid\n"
    ++ (match config.constraint with
      | none => "  No constraint column; rows are not tracked\n"
      | some c =>
        "  Constraint column: " ++ c.column ++ " (row limit: "
          ++ (match c.rowLimit with | none => "none" | some n => Text.Count.render n) ++ ")\n")
    ++ "  First row query: " ++ plan.queryText ++ "\n"

/-- The text that shows the watermark of a store. -/
def watermarkText (config : Job.Config) (store : Watermark.Store) : String :=
  match store.current.toDocument with
  | none => "No watermark stored for job '" ++ config.running.name ++ "'\n"
  | some document => document.pretty ++ "\n"

/-- The text that says that nothing is stored. -/
def inMemoryText (config : Job.Config) : String :=
  "Job '" ++ config.running.name ++ "' keeps its watermark in memory only\n"

/-! ### Preparing a job -/

/-- What went wrong with a store, outermost first. -/
def storeTrouble (e : Watermark.StoreError) : Trouble :=
  e.message :: match e with | .access _ source => [source.message] | _ => []

/-- The description that a text at a path gives. -/
def configOf (path : String) (text : Except Storage.IoFault String) : Except Trouble Job.Config :=
  (Job.Config.ofFile path text).mapError fun e => ("Invalid job config " ++ path) :: e.chain

/-- The client of the query service of a job; a key on the command line counts more. -/
def clientOf (config : Job.Config) (apiKey : Option String) : Except Trouble Remote.Client :=
  (Remote.Client.new config.service.url (apiKey.or config.service.apiKey)).mapError fun e =>
    "Failed to create query service client" :: e.chain

variable {m : Type → Type} [Monad m]

/-- What the cycles of a job work with. -/
def surroundings (machine : Machine m) (config : Job.Config) (client : Remote.Client) :
    Surroundings m where
  engine := client.engine (machine.transport config.timeoutMs)
  documents :=
    match config.state.bind Job.State.directory with
    | some root => Storage.Directory.backend machine.fileSystem root
    | none => client.documents (machine.transport config.timeoutMs)
  now := machine.now

/-- What the daemon of a job works with. -/
def daemonSurroundings (machine : Machine m) (config : Job.Config) (client : Remote.Client) :
    Daemon.Surroundings m where
  toSurroundings := surroundings machine config client
  wait := machine.wait config.pollIntervalMs
  signal := machine.signal
  handOn rows := machine.print (Engine.renderLines rows)

/-- The job that a description and a key make, before its first cycle. -/
def start (config : Job.Config) (apiKey : Option String) :
    Except Trouble (Remote.Client × Cycle) := do
  let rewriter ← config.rewriter.mapError Job.RewriterError.chain
  let client ← clientOf config apiKey
  return (client, .new rewriter config.store)

/-! ### Commands -/

/-- Prints a text; a failure is the only trouble. -/
def print (machine : Machine m) (text : String) : m (Except Trouble Unit) := do
  return (← machine.print text).mapError fun reason => [reason]

/-- Runs one cycle and prints its rows. -/
def runOnce (machine : Machine m) (config : Job.Config) (apiKey : Option String) :
    m (Except Trouble Unit) :=
  match start config apiKey with
  | .error trouble => return .error trouble
  | .ok (client, cycle) => do
    let (report, _) ← Daemon.runOnce (surroundings machine config client) cycle
    print machine (Engine.renderLines report.rows)

/-- A way to run the cycles of a daemon, from a job on. -/
abbrev Runner (m : Type → Type) := Daemon.Surroundings m → Cycle → m (Except Trouble Unit)

/-- Runs cycles until a signal to stop or a refusal, at most the given number. -/
def runUpTo (limit : Nat) : Runner m := fun env cycle => do
  let run ← Daemon.run env limit cycle
  return run.ending.result.mapError Daemon.Refusal.chain

/-- Runs the daemon of a job. -/
def runDaemon (machine : Machine m) (runner : Runner m) (config : Job.Config)
    (apiKey : Option String) : m (Except Trouble Unit) :=
  match start config apiKey with
  | .error trouble => return .error trouble
  | .ok (client, cycle) => runner (daemonSurroundings machine config client) cycle

/-- Shows the stored watermark. -/
def showWatermark (machine : Machine m) (config : Job.Config) (apiKey : Option String) :
    m (Except Trouble Unit) :=
  match clientOf config apiKey with
  | .error trouble => return .error trouble
  | .ok client => do
    let store := config.store
    if ¬ store.isDurable then print machine (inMemoryText config)
    else
      let (result, store) ← store.retrieve (surroundings machine config client).documents
      match result with
      | .error e => return .error ("Failed to read the stored watermark" :: storeTrouble e)
      | .ok _ => print machine (watermarkText config store)

/-- Shows the first query of a job. -/
def validate (machine : Machine m) (config : Job.Config) : m (Except Trouble Unit) :=
  match config.rewriter with
  | .error e => return .error e.chain
  | .ok rewriter => print machine (validText config (rewriter.rowPlan none).1)

/-- Carries out a command, running a daemon in the given way. -/
def execute (machine : Machine m) (runner : Runner m) (i : Invocation) :
    m (Except Trouble Unit) := do
  match configOf i.config (← machine.readText i.config) with
  | .error trouble => return .error trouble
  | .ok config =>
    match i.action with
    | .run true => runOnce machine config i.apiKey
    | .run false => runDaemon machine runner config i.apiKey
    | .watermark => showWatermark machine config i.apiKey
    | .validate => validate machine config

end Tidemark.Command
