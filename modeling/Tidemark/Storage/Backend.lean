import Tidemark.Json.Basic
import Tidemark.Storage.IoFault
import Tidemark.Text.Quoted
import Tidemark.Watermark.Permission

/-!
# Document backends

A backend keeps one text per document URI.  Writing replaces the document in one step; reading
tells a document that is not there from a failure to read it.
-/

namespace Tidemark.Storage

/-- Where a document is stored, who may use it, and the collections it belongs to. -/
structure Location where
  uri : String
  /-- A list of roles and capabilities. -/
  permissions : String
  collections : List String
  deriving DecidableEq, Repr

/-- Why a backend does not read or write a document. -/
inductive BackendError where
  /-- The request did not reach the backend, or its answer did not come back. -/
  | transport
  | status (code : Nat) (body : String)
  | io (path : String) (fault : IoFault)
  | invalidUri (uri : String)
  | permissions (fault : Watermark.PermissionFault)
  deriving DecidableEq, Repr

namespace BackendError

/-- The wording of an error. -/
def message : BackendError → String
  | .transport => "request to document backend failed"
  | .status code body => "document backend returned status " ++ toString code ++ ": " ++ body
  | .io path fault => "I/O error on " ++ Text.quoted path ++ ": " ++ fault.message
  | .invalidUri uri => "invalid document URI '" ++ uri ++ "'"
  | .permissions fault => "invalid permissions: " ++ fault.message

end BackendError

/-- A backend whose reads and writes are effects of `m`. -/
structure DocumentBackend (m : Type → Type) where
  /-- The text stored under a URI; none if there is no document. -/
  read : String → m (Except BackendError (Option String))
  /-- Stores a value as the document at a location. -/
  write : Location → Json → m (Except BackendError Unit)

end Tidemark.Storage
