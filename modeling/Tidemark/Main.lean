import Tidemark.Host

/-!
# The program

The program reads its command line, carries the command out on its host, and reports what went
wrong with an exit code.
-/

namespace Tidemark

/-- The environment variable that holds a key for the query service. -/
def apiKeyVariable : String := "HIGHWATER_API_KEY"

/-- The text that explains the command line. -/
def helpText : String :=
  "Incremental row extraction with a persisted high-water mark\n\n"
    ++ "Usage: highwater [OPTIONS] <COMMAND>\n\n"
    ++ "Commands:\n"
    ++ "  run        Poll the job's query and print new rows as JSON lines\n"
    ++ "  watermark  Show the job's stored watermark\n"
    ++ "  validate   Check a job config and print the first row query it would run\n\n"
    ++ "Options:\n"
    ++ "      --log <LOG>          Set the log level\n"
    ++ "      --api-key <API_KEY>  API key for the query service\n"
    ++ "      --config <CONFIG>    Path to the job config TOML (after the command)\n"
    ++ "      --once               Run a single cycle and exit (after run)\n"
    ++ "  -h, --help               Print help\n"
    ++ "  -V, --version            Print version\n"

/-- The text that reports what went wrong. -/
def troubleText (trouble : Command.Trouble) : String :=
  "Error: " ++ trouble.headD ""
    ++ (match trouble.drop 1 with
      | [] => ""
      | causes => "\n\nCaused by:" ++ String.join (causes.map ("\n    " ++ ·)))
    ++ "\n"

/-- Runs cycles one by one until a signal to stop or a refusal. -/
partial def keepRunning : Command.Runner IO := fun env cycle => do
  let run ← Daemon.run env 1 cycle
  match run.ending with
  | .paused => keepRunning env run.cycle
  | ending => return ending.result.mapError Daemon.Refusal.chain

/-- Carries out a command and gives the exit code. -/
def perform (i : Command.Invocation) : IO UInt32 := do
  let i := { i with apiKey := i.apiKey.or (← IO.getEnv apiKeyVariable) }
  match ← Command.execute (← Host.machine) keepRunning i with
  | .ok () => return 0
  | .error trouble =>
    (← IO.getStderr).putStr (troubleText trouble)
    return 1

end Tidemark

/-- The program. -/
def main (args : List String) : IO UInt32 := do
  match Tidemark.Command.Arguments.read args with
  | .invocation i => Tidemark.perform i
  | .version =>
    (← IO.getStdout).putStr Tidemark.Command.versionText
    return 0
  | .help =>
    (← IO.getStdout).putStr Tidemark.helpText
    return 0
  | .misuse =>
    (← IO.getStderr).putStr Tidemark.helpText
    return 2
