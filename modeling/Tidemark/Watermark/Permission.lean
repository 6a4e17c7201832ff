import Tidemark.Text.Blank
import Tidemark.Text.Pieces

/-!
# Permissions of a stored document

A descriptor lists roles and capabilities in turn, with commas between them.  Blanks around a token
do not count, and neither do empty tokens.
-/

namespace Tidemark.Watermark

/-- What a role may do with a document. -/
inductive Capability where
  | read
  | update
  | insert
  | execute
  deriving DecidableEq, Repr

namespace Capability

/-- The name of a capability in a descriptor. -/
def name : Capability → String
  | .read => "read"
  | .update => "update"
  | .insert => "insert"
  | .execute => "execute"

/-- All capabilities, in the order in which messages list them. -/
def all : List Capability := [.read, .update, .insert, .execute]

/-- The capability with a name. -/
def ofName? (s : String) : Option Capability :=
  all.find? fun c => c.name = s

@[simp] theorem ofName?_name (c : Capability) : ofName? c.name = some c := by
  cases c <;> decide

end Capability

/-- A capability granted to a role. -/
structure Grant where
  role : String
  capability : Capability
  deriving DecidableEq, Repr

/-- Why a text is no descriptor. -/
inductive PermissionFault where
  | oddTokens (count : Nat) (descriptor : String)
  | unknownCapability (name role : String)
  deriving DecidableEq, Repr

namespace PermissionFault

/-- The wording of a fault. -/
def message : PermissionFault → String
  | .oddTokens count descriptor =>
    "expected role,capability pairs but got " ++ toString count ++ " tokens in '" ++ descriptor
      ++ "'"
  | .unknownCapability name role =>
    "unknown capability '" ++ name ++ "' for role '" ++ role ++ "' (expected one of "
      ++ String.intercalate ", " (Capability.all.map Capability.name) ++ ")"

end PermissionFault

namespace Grant

/-- The tokens of a descriptor: its pieces between commas, trimmed, without the empty ones. -/
def tokens (descriptor : String) : List String :=
  (((Text.pieces ',' descriptor.toList).map Text.trim).filter (· ≠ [])).map String.ofList

/-- Reads tokens two by two as grants. -/
def ofTokens : List String → Except PermissionFault (List Grant)
  | role :: name :: rest =>
    match Capability.ofName? name with
    | none => .error (.unknownCapability name role)
    | some capability => (ofTokens rest).map (⟨role, capability⟩ :: ·)
  | _ => .ok []

/-- Reads a descriptor.  An odd number of tokens is reported before any unknown capability. -/
def readAll (descriptor : String) : Except PermissionFault (List Grant) :=
  let ts := tokens descriptor
  if ts.length % 2 = 1 then .error (.oddTokens ts.length descriptor) else ofTokens ts

end Grant

end Tidemark.Watermark
