import Tidemark.Json.Printer
import Tidemark.Query.Step
import Tidemark.Text.Blank

/-!
# Plans and the base queries they extend

A job gives its base query as pipeline text or as a plan tree.  A plan is a base query with steps
appended: text is joined after the base without its blank end, and a tree takes the steps at the
end of the array `$optic.args`.  `Shape.check` says which trees have that array; appending keeps
the shape and everything else in the tree.
-/

namespace Tidemark.Query

/-- A query that an engine can execute. -/
inductive Plan where
  | text (source : String)
  | tree (root : Json)
  deriving Repr

namespace Plan

/-- The query text of a plan: the source itself, or the compact text of the tree. -/
def queryText : Plan → String
  | .text source => source
  | .tree root => root.compact

end Plan

/-! ### The shape of a plan tree -/

/-- Why a JSON value is not a plan tree that steps can be appended to. -/
inductive ShapeFault where
  | notAnObject
  | noOptic
  | noArgs
  | badStep (index : Nat)
  deriving DecidableEq, Repr

namespace ShapeFault

/-- The wording of a fault. -/
def message (f : ShapeFault) : String :=
  "invalid serialized plan: " ++
    match f with
    | .notAnObject => "plan must be a JSON object"
    | .noOptic => "missing '$optic' object at the root"
    | .noArgs => "'$optic' has no 'args' array"
    | .badStep index => "step " ++ toString index ++ " of '$optic.args' is not an object"

end ShapeFault

namespace Shape

/-- The key of the pipeline in a plan tree. -/
def opticKey : String := "$optic"

/-- The key of the steps in the pipeline. -/
def argsKey : String := "args"

/-- The steps of a plan tree, if it has the array that holds them. -/
def steps? (root : Json) : Option (List Json) :=
  match (root.member? opticKey).bind (Json.member? argsKey) with
  | some (.array steps) => some steps
  | _ => none

/-- Checks that a value is an object whose `$optic` is an object whose `args` is an array of
objects, and reports the first level that is violated. -/
def check (root : Json) : Except ShapeFault Unit :=
  match root with
  | .object members =>
    match Members.find? opticKey members with
    | some (.object optic) =>
      match Members.find? argsKey optic with
      | some (.array steps) =>
        match steps.findIdx? fun s => !s.isObject with
        | some i => .error (.badStep i)
        | none => .ok ()
      | _ => .error .noArgs
    | _ => .error .noOptic
  | _ => .error .notAnObject

/-- Changes the member of an object under a key. -/
def modifyMember (k : String) (f : Json → Json) : Json → Json
  | .object members => .object (Members.modify k f members)
  | v => v

/-- Adds items at the end of an array. -/
def appendItems (items : List Json) : Json → Json
  | .array vs => .array (vs ++ items)
  | v => v

/-- Appends steps to a plan tree. -/
def append (root : Json) (steps : List Json) : Json :=
  modifyMember opticKey (modifyMember argsKey (appendItems steps)) root

end Shape

/-! ### Base queries -/

/-- The query that a job gives. -/
inductive Base where
  | text (source : String)
  | tree (root : Json) (shape : Shape.check root = .ok ())

namespace Base

/-- A plan tree as base query, if it has the right shape. -/
def ofTree (root : Json) : Except ShapeFault Base :=
  match h : Shape.check root with
  | .ok () => .ok (.tree root h)
  | .error f => .error f

/-- The base query with steps appended. -/
def plan : Base → List Step → Plan
  | .text source, steps => .text (Text.trimmedEnd source ++ String.join (steps.map Step.text))
  | .tree root _, steps => .tree (Shape.append root (steps.map Step.tree))

/-- The text of the base query as it was given. -/
def sourceText : Base → String
  | .text source => source
  | .tree root _ => root.compact

end Base

end Tidemark.Query
