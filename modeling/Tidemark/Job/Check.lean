import Tidemark.Job.Config
import Tidemark.Storage.IoFault
import Tidemark.Text.Blank
import Tidemark.Url.Parse
import Tidemark.Watermark.Permission

/-!
# Judging the description of a job

A description is accepted when a job can run by it.  Its parts are judged in the order in which
they stand in it, and the first that is wrong is reported.
-/

namespace Tidemark.Job

/-- Why a description is refused. -/
inductive ConfigError where
  | undecodable (fault : Toml.Fault)
  | tasks (count : UInt32)
  | noPollInterval
  | bothQueries
  | noQuery
  | emptyDsl
  | emptySerialized
  | serviceUrl (url : String) (fault : Url.Fault)
  | noTimeout
  | emptyUri
  | permissions (fault : Watermark.PermissionFault)

namespace ConfigError

/-- The wordings of an error, outermost first. -/
def chain : ConfigError → List String
  | .undecodable fault => ["Failed to parse job config", fault.message]
  | .tasks count =>
    ["job.tasks must be 1 (got " ++ toString count
      ++ "); a watermark can only be advanced by a single worker"]
  | .noPollInterval => ["job.poll_interval_ms must be greater than 0"]
  | .bothQueries => ["Cannot use both query.dsl and query.serialized"]
  | .noQuery => ["One of query.dsl or query.serialized is required"]
  | .emptyDsl => ["query.dsl is empty"]
  | .emptySerialized => ["query.serialized is empty"]
  | .serviceUrl url fault => ["engine.url is not a valid URL: " ++ url, fault.message]
  | .noTimeout => ["engine.timeout_secs must be greater than 0"]
  | .emptyUri => ["state.uri must not be empty"]
  | .permissions fault => ["state.permissions is invalid: " ++ fault.message]

end ConfigError

namespace Running

/-- Judges how the job runs. -/
def check (r : Running) : Except ConfigError Unit :=
  if r.tasks ≠ 1 then .error (.tasks r.tasks)
  else if r.pollIntervalMs = 0 then .error .noPollInterval
  else .ok ()

end Running

namespace Question

/-- Judges what the job asks: exactly one query that is not blank. -/
def check (q : Question) : Except ConfigError Unit :=
  match q.dsl, q.serialized with
  | some _, some _ => .error .bothQueries
  | none, none => .error .noQuery
  | some dsl, none => if Text.isBlankText dsl then .error .emptyDsl else .ok ()
  | none, some serialized =>
    if Text.isBlankText serialized then .error .emptySerialized else .ok ()

end Question

namespace Service

/-- Judges whom the job asks. -/
def check (e : Service) : Except ConfigError Unit :=
  match Url.read e.url with
  | .error fault => .error (.serviceUrl e.url fault)
  | .ok _ => if e.timeoutSecs = 0 then .error .noTimeout else .ok ()

end Service

namespace State

/-- Judges where the watermark is kept. -/
def check (s : State) : Except ConfigError Unit :=
  if Text.isBlankText s.uri then .error .emptyUri
  else
    match Watermark.Grant.readAll s.permissions with
    | .error fault => .error (.permissions fault)
    | .ok _ => .ok ()

end State

namespace Config

/-- Judges a description. -/
def check (c : Config) : Except ConfigError Unit := do
  c.running.check
  c.question.check
  c.service.check
  match c.state with
  | none => return ()
  | some s => s.check

/-- Reads a description that a job can run by. -/
def read (text : String) : Except ConfigError Config := do
  let c ← (decode text).mapError .undecodable
  c.check
  return c

end Config

/-! ### Descriptions in files -/

/-- Why the file of a description is not read. -/
inductive LoadError where
  | unreadable (path : String) (fault : Storage.IoFault)
  | refused (path : String) (error : ConfigError)

namespace LoadError

/-- The wordings of an error, outermost first. -/
def chain : LoadError → List String
  | .unreadable path fault =>
    ["Failed to read job config from " ++ Text.quoted path, fault.message]
  | .refused path error => ("Failed to load job config from " ++ Text.quoted path) :: error.chain

end LoadError

namespace Config

/-- What the text of a file at a path describes. -/
def ofFile (path : String) (text : Except Storage.IoFault String) : Except LoadError Config :=
  match text with
  | .error fault => .error (.unreadable path fault)
  | .ok text => (read text).mapError (.refused path)

end Config

end Tidemark.Job
