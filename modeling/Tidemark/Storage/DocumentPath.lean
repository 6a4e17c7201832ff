import Tidemark.Text.Pieces

/-!
# Paths of documents below a root directory

The text of a path stands for a list of components.  A document URI names a file below a root: the
names that are met on a walk along its components are the names on the way.  A walk that meets
anything else is refused, so that no URI leads out of the root.
-/

namespace Tidemark.Storage

/-! ### Components -/

/-- A component of a path. -/
inductive Component where
  /-- The slash that begins a path. -/
  | root
  /-- The single dot that begins a path. -/
  | here
  /-- A double dot. -/
  | above
  | name (s : String)
  deriving DecidableEq, Repr

namespace Component

/-- The component that a piece between slashes stands for. -/
def ofPiece (p : List Char) : Component :=
  if p = ['.', '.'] then .above else .name (String.ofList p)

/-- Whether a piece between slashes counts. -/
def counts (p : List Char) : Bool :=
  p ≠ [] ∧ p ≠ ['.']

/-- The component that only the beginning of a path can be. -/
def start (cs : List Char) : List Component :=
  if cs.head? = some '/' then [.root]
  else if (Text.pieces '/' cs).head? = some ['.'] then [.here]
  else []

/-- The components between slashes. -/
def along (cs : List Char) : List Component :=
  ((Text.pieces '/' cs).filter counts).map ofPiece

end Component

/-- The components of a path: the root, if a slash begins it, and then what stands between its
slashes, of which empty pieces and single dots do not count unless a dot begins the path. -/
def components (path : String) : List Component :=
  Component.start path.toList ++ Component.along path.toList

/-! ### Paths of documents -/

/-- A path below a root directory: the names from the root on. -/
structure DocumentPath where
  root : String
  names : List String
  deriving DecidableEq, Repr

namespace DocumentPath

/-- The names met on a walk along components; none if it meets one that is neither a name nor the
single dot at the beginning. -/
def walk? : List Component → Option (List String)
  | [] => some []
  | .name s :: cs => (walk? cs).map (s :: ·)
  | .here :: cs => walk? cs
  | _ :: _ => none

/-- A URI without the slashes that begin it. -/
def relative (uri : String) : String :=
  String.ofList (uri.toList.dropWhile (· = '/'))

/-- The path of a document below a root; none if the walk along its URI meets no name, or anything
but names. -/
def ofUri? (root uri : String) : Option DocumentPath :=
  ((walk? (components (relative uri))).filter (· ≠ [])).map (⟨root, ·⟩)

/-- The directory of a path. -/
def parent (p : DocumentPath) : DocumentPath :=
  { p with names := p.names.dropLast }

/-- The last name of a path; the root has none. -/
def name (p : DocumentPath) : String :=
  p.names.getLast?.getD ""

/-- The path of another file in the same directory. -/
def sibling (p : DocumentPath) (name : String) : DocumentPath :=
  { p with names := p.names.dropLast ++ [name] }

/-! ### Text -/

/-- The reversed text of a directory without separators and single dots at its end. -/
def dropSeparators : List Char → List Char
  | ['/'] => ['/']
  | '/' :: cs => dropSeparators cs
  | '.' :: '/' :: cs => if cs = [] then ['/'] else dropSeparators cs
  | cs => cs

/-- The text of a root directory that stands by itself. -/
def rootText (root : String) : String :=
  String.ofList (dropSeparators root.toList.reverse).reverse

/-- A directory text with one more name. -/
def join (directory name : String) : String :=
  if directory = "" ∨ directory.toList.getLast? = some '/' then directory ++ name
  else directory ++ "/" ++ name

/-- The text of a path. -/
def text (p : DocumentPath) : String :=
  match p.names with
  | [] => rootText p.root
  | names => names.foldl join p.root

end DocumentPath

end Tidemark.Storage
