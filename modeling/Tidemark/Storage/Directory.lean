import Tidemark.Json.Printer
import Tidemark.Storage.Backend
import Tidemark.Storage.FileSystem

/-!
# Documents in a directory

Each document is a file below a root directory.  A document is written to a new file beside its
path first, and that file is then renamed, so that a reader finds the old text or the new one.
Permissions and collections mean nothing here.
-/

namespace Tidemark.Storage.Directory

variable {m : Type → Type} [Monad m]

/-- The path of a document. -/
def resolve (root uri : String) : Except BackendError DocumentPath :=
  match DocumentPath.ofUri? root uri with
  | some p => .ok p
  | none => .error (.invalidUri uri)

/-- The file that a document is written to before it is renamed. -/
def draft (p : DocumentPath) (fresh : String) : DocumentPath :=
  p.sibling ("." ++ p.name ++ "." ++ fresh ++ ".tmp")

/-- The bytes of a stored document: its pretty text. -/
def encode (body : Json) : ByteArray :=
  body.pretty.toUTF8

/-- A file operation whose fault is reported with a path. -/
def attempt {α : Type} (p : DocumentPath) (action : m (Except IoFault α)) :
    m (Except BackendError α) := do
  return (← action).mapError (.io p.text)

/-- Puts a written draft in the place of the document; a draft that cannot be moved is removed. -/
def replace (fs : FileSystem m) (p temporary : DocumentPath) : m (Except BackendError Unit) := do
  match ← fs.rename temporary p with
  | .ok () => return .ok ()
  | .error fault =>
    let _ ← fs.remove temporary
    return .error (.io p.text fault)

/-- Writes a document at a path. -/
def writeAt (fs : FileSystem m) (p : DocumentPath) (body : Json) :
    m (Except BackendError Unit) := do
  match ← attempt p.parent (fs.makeDirectories p.parent) with
  | .error e => return .error e
  | .ok () =>
    let temporary := draft p (← fs.freshName)
    match ← attempt temporary (fs.write temporary (encode body)) with
    | .error e => return .error e
    | .ok () => replace fs p temporary

/-- The text in the bytes of a document. -/
def decode (bytes : ByteArray) : Except IoFault String :=
  match String.fromUTF8? bytes with
  | some text => .ok text
  | none => .error .notText

/-- Reads the document at a path; no file means no document. -/
def readAt (fs : FileSystem m) (p : DocumentPath) : m (Except BackendError (Option String)) := do
  match ← fs.read p with
  | .error .notFound => return .ok none
  | .error fault => return .error (.io p.text fault)
  | .ok bytes => return (decode bytes).mapError (.io p.text) |>.map some

/-- The backend that keeps its documents below a root directory. -/
def backend (fs : FileSystem m) (root : String) : DocumentBackend m where
  read uri :=
    match resolve root uri with
    | .error e => return .error e
    | .ok p => readAt fs p
  write location body :=
    match resolve root location.uri with
    | .error e => return .error e
    | .ok p => writeAt fs p body

end Tidemark.Storage.Directory
