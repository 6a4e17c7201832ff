import Tidemark.Toml.Value

/-!
# Tables under construction

The lines of a text define tables piece by piece: a header opens a table, a dotted key makes the
tables on its way, and a table that only lies on the way to another one may be defined later, once.
A node remembers how its table came about, because that decides what may still be added to it.
-/

namespace Tidemark.Toml

/-- A member of a table under construction. -/
inductive Node where
  | value (v : Value)
  /-- A table; `implied` if nothing but its place on the way to another one was seen, `dotted` if a
  dotted key made it. -/
  | table (implied dotted : Bool) (members : List (String × Node))
  /-- The tables that headers in double brackets opened, in order. -/
  | tables (elements : List (List (String × Node)))

/-- The members of a table under construction, in the order of their definition. -/
abbrev Members := List (String × Node)

namespace Node

mutual

/-- The finished value of a node. -/
def toValue : Node → Value
  | .value v => v
  | .table _ _ members => .table (toValues members)
  | .tables elements => .array (toArray elements)

/-- The finished values of members. -/
def toValues : List (String × Node) → List (String × Value)
  | [] => []
  | (k, n) :: rest => (k, toValue n) :: toValues rest

/-- The finished values of the elements of an array of tables. -/
def toArray : List (List (String × Node)) → List Value
  | [] => []
  | members :: rest => .table (toValues members) :: toArray rest

end

end Node

namespace Members

/-- The node under a key. -/
def find? (k : String) : Members → Option Node
  | [] => none
  | (l, n) :: rest => if k = l then some n else find? k rest

/-- Puts another node under a key, in its place; a new key goes to the end. -/
def put (k : String) (n : Node) : Members → Members
  | [] => [(k, n)]
  | (l, o) :: rest => if k = l then (k, n) :: rest else (l, o) :: put k n rest

/-- Takes a key away. -/
def erase (k : String) (ms : Members) : Members :=
  ms.filter fun m => m.1 ≠ k

/-- Changes the table at the end of a path, making the tables on the way that are missing.  A
`dotted` path comes from a dotted key and must not lead into a table that was opened by a header.
The change is told whether the table was made by a dotted key. -/
def descend (dotted : Bool) (change : Bool → Members → Option Members) :
    List String → Bool → Members → Option Members
  | [], isDotted, ms => change isDotted ms
  | k :: ks, _, ms =>
    match find? k ms with
    | none => do
      let below ← descend dotted change ks dotted []
      return put k (.table true dotted below) ms
    | some (.value _) => none
    | some (.table implied isDotted below) =>
      if dotted ∧ ¬ implied then none
      else do
        let below ← descend dotted change ks isDotted below
        return put k (.table implied isDotted below) ms
    | some (.tables elements) =>
      match elements.getLast? with
      | none => none
      | some last => do
        let last ← descend dotted change ks false last
        return put k (.tables (elements.dropLast ++ [last])) ms

/-- Adds a new key to a table. -/
def addNew (k : String) (n : Node) (ms : Members) : Option Members :=
  if (find? k ms).isSome then none else some (ms ++ [(k, n)])

/-- Defines a key, which may be dotted.  The table that it goes to must have been made by a dotted
key exactly if the key is dotted. -/
def define (path : List String) (v : Value) (ms : Members) : Option Members :=
  match path.getLast? with
  | none => none
  | some k =>
    let way := path.dropLast
    descend true
      (fun isDotted below => if isDotted = way.isEmpty then none else addNew k (.value v) below)
      way false ms

/-- Defines several keys. -/
def defineAll (pairs : List (List String × Value)) (ms : Members) : Option Members :=
  pairs.foldlM (fun ms p => define p.1 p.2 ms) ms

/-- Opens a table that is not defined yet, defines its keys and puts it last in its parent. -/
def openTable (k : String) (pairs : List (List String × Value)) (ms : Members) : Option Members :=
  match find? k ms with
  | none => do return ms ++ [(k, .table false false (← defineAll pairs []))]
  | some (.table true false below) => do
    return erase k ms ++ [(k, .table false false (← defineAll pairs below))]
  | some _ => none

/-- Adds a table to an array of tables. -/
def openElement (k : String) (pairs : List (List String × Value)) (ms : Members) :
    Option Members := do
  let element ← defineAll pairs []
  match find? k ms with
  | none => return ms ++ [(k, .tables [element])]
  | some (.tables elements) => return put k (.tables (elements ++ [element])) ms
  | some _ => none

end Members

/-- What a header opens. -/
inductive Header where
  | table (path : List String)
  | element (path : List String)

/-- A header with the keys defined below it. -/
structure Section where
  header : Header
  pairs : List (List String × Value)

namespace Section

/-- Adds a section to the table of a whole text. -/
def addTo (s : Section) (root : Members) : Option Members :=
  match s.header with
  | .table path => do
    let k ← path.getLast?
    Members.descend false (fun _ ms => Members.openTable k s.pairs ms) path.dropLast false root
  | .element path => do
    let k ← path.getLast?
    Members.descend false (fun _ ms => Members.openElement k s.pairs ms) path.dropLast false root

end Section

/-- The table that keys without a header and the sections after them define. -/
def assemble (pairs : List (List String × Value)) (sections : List Section) :
    Option (List (String × Value)) := do
  let root ← Members.defineAll pairs []
  let root ← sections.foldlM (fun root s => s.addTo root) root
  return Node.toValues root

end Tidemark.Toml
