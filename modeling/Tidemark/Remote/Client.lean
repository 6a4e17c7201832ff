import Tidemark.Engine.Basic
import Tidemark.Remote.Http
import Tidemark.Remote.RowsBody
import Tidemark.Storage.Backend
import Tidemark.Url.Parse

/-!
# The query service

A query service executes plans at one place and keeps documents at another, both below a base URL.
It names the point in time of an answer in a header.  The client is a query engine and a document
backend over any transport.
-/

namespace Tidemark.Remote

/-- A client of a query service. -/
structure Client where
  base : Url
  apiKey : Option String
  deriving DecidableEq, Repr

/-- A base URL that is none. -/
structure ClientError where
  base : String
  fault : Url.Fault
  deriving DecidableEq, Repr

namespace ClientError

/-- The wordings of an error, outermost first. -/
def chain (e : ClientError) : List String :=
  ["Invalid query service URL: " ++ e.base, e.fault.message]

end ClientError

namespace Client

/-- The header that names the point in time of an answer. -/
def timestampHeader : String := "ML-Effective-Timestamp"

/-- The media type of query text. -/
def dslContentType : String := "application/vnd.marklogic.querydsl+javascript"

/-- The media type of JSON. -/
def jsonContentType : String := "application/json"

/-- A text with exactly one slash at its end. -/
def withOneSlash (base : String) : String :=
  String.ofList ((base.toList.reverse.dropWhile (· = '/')).reverse ++ ['/'])

/-- A client of the service at a base URL. -/
def new (base : String) (apiKey : Option String) : Except ClientError Client :=
  match Url.read (withOneSlash base) with
  | .ok url => .ok ⟨url, apiKey⟩
  | .error fault => .error ⟨base, fault⟩

/-! ### Places -/

/-- The place that executes plans, at a point in time if one is given. -/
def rowsUrl (c : Client) (at' : Option Engine.PointInTime) : Except Url.Fault Url := do
  let url ← c.base.resolve ["v1", "rows"]
  match at' with
  | none => return url
  | some t => return url.addPairs [("timestamp", t.render)]

/-- The names and values that say which document is meant and how it is kept. -/
def documentPairs (uri : String) (grants : List Watermark.Grant) (collections : List String) :
    List (String × String) :=
  ("uri", uri)
    :: grants.map (fun g => ("perm:" ++ g.role, g.capability.name))
    ++ collections.map fun name => ("collection", name)

/-- The place of a document. -/
def documentsUrl (c : Client) (location : Storage.Location) : Except Storage.BackendError Url := do
  let grants ← (Watermark.Grant.readAll location.permissions).mapError .permissions
  match c.base.resolve ["v1", "documents"] with
  | .error _ => throw (.invalidUri location.uri)
  | .ok url => return url.addPairs (documentPairs location.uri grants location.collections)

/-! ### Requests -/

/-- The header that carries the API key. -/
def keyHeaders (c : Client) : List (String × String) :=
  match c.apiKey with
  | none => []
  | some key => [("x-api-key", key)]

/-- The request that executes a plan. -/
def rowsRequest (c : Client) (url : Url) (plan : Query.Plan) : Request where
  method := "POST"
  url := url
  headers :=
    ("content-type", match plan with | .text _ => dslContentType | .tree _ => jsonContentType)
      :: c.keyHeaders ++ [("accept", jsonContentType)]
  body := plan.queryText

/-- The request that stores a document. -/
def storeRequest (c : Client) (url : Url) (body : Json) : Request where
  method := "PUT"
  url := url
  headers := ("content-type", jsonContentType) :: c.keyHeaders
  body := body.compact

/-- The request that reads a document. -/
def readRequest (c : Client) (url : Url) : Request where
  method := "GET"
  url := url
  headers := ("accept", jsonContentType) :: c.keyHeaders
  body := ""

/-! ### Answers -/

/-- The point in time of an answer: the one that its header names, otherwise the requested one. -/
def tokenOf (requested : Option Engine.PointInTime) (r : Response) :
    Except Engine.EngineError Engine.PointInTime :=
  match r.header? timestampHeader with
  | some raw =>
    (Engine.PointInTime.read raw).mapError fun fault =>
      .undecodable ("invalid " ++ timestampHeader ++ " header '" ++ raw ++ "': " ++ fault.message)
  | none =>
    match requested with
    | some t => .ok t
    | none => .error (.undecodable ("response has no " ++ timestampHeader ++ " header"))

/-- The text that an answer without success is reported with. -/
def refusalText (reading : TextReading) (r : Response) : String :=
  (r.text? reading).getD ""

/-- The rows of an answer. -/
def rowsOf (reading : TextReading) (r : Response) : Except Engine.EngineError (List Engine.Row) :=
  if r.status = 204 then .ok []
  else
    match r.text? reading with
    | none => .error .transport
    | some text =>
      match RowsBody.read text with
      | .ok body => .ok body.rows
      | .error fault => .error (.undecodable fault.message)

/-- What an answer to a plan says. -/
def resultOf (reading : TextReading) (requested : Option Engine.PointInTime) (r : Response) :
    Except Engine.EngineError Engine.QueryResult := do
  if ¬ r.isSuccess then throw (.status r.status (refusalText reading r))
  let token ← tokenOf requested r
  let rows ← rowsOf reading r
  return ⟨rows, token⟩

/-- What an answer to the reading of a document says. -/
def documentOf (reading : TextReading) (r : Response) :
    Except Storage.BackendError (Option String) :=
  if r.status = 404 then .ok none
  else if r.isSuccess then
    match r.text? reading with
    | some text => .ok (some text)
    | none => .error .transport
  else .error (.status r.status (refusalText reading r))

/-- What an answer to the storing of a document says. -/
def storedOf (reading : TextReading) (r : Response) : Except Storage.BackendError Unit :=
  if r.isSuccess then .ok () else .error (.status r.status (refusalText reading r))

/-! ### Exchanges -/

variable {m : Type → Type} [Monad m]

/-- Sends a request that can be sent. -/
def send (transport : Transport m) (r : Request) : m (Option Response) :=
  if r.isValid then transport.send r else return none

/-- Executes a plan. -/
def execute (transport : Transport m) (c : Client) (plan : Query.Plan)
    (requested : Option Engine.PointInTime) :
    m (Except Engine.EngineError Engine.QueryResult) :=
  match c.rowsUrl requested with
  | .error fault => return .error (.url fault)
  | .ok url => do
    match ← send transport (c.rowsRequest url plan) with
    | none => return .error .transport
    | some r => return resultOf transport.reading requested r

/-- Reads a document. -/
def readDocument (transport : Transport m) (c : Client) (uri : String) :
    m (Except Storage.BackendError (Option String)) :=
  match c.documentsUrl ⟨uri, "", []⟩ with
  | .error e => return .error e
  | .ok url => do
    match ← send transport (c.readRequest url) with
    | none => return .error .transport
    | some r => return documentOf transport.reading r

/-- Stores a document. -/
def writeDocument (transport : Transport m) (c : Client) (location : Storage.Location)
    (body : Json) : m (Except Storage.BackendError Unit) :=
  match c.documentsUrl location with
  | .error e => return .error e
  | .ok url => do
    match ← send transport (c.storeRequest url body) with
    | none => return .error .transport
    | some r => return storedOf transport.reading r

/-- The query service as an engine. -/
def engine (transport : Transport m) (c : Client) : Engine.QueryEngine m :=
  ⟨execute transport c⟩

/-- The query service as a document backend. -/
def documents (transport : Transport m) (c : Client) : Storage.DocumentBackend m :=
  ⟨readDocument transport c, writeDocument transport c⟩

end Client

end Tidemark.Remote
