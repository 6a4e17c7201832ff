import Tidemark.Toml.Scalar
import Tidemark.Toml.Table

/-!
# TOML texts

A text is a sequence of lines: headers, and keys with their values.  Arrays may go over several
lines; an inline table ends on the line on which it begins.
-/

namespace Tidemark.Toml

namespace Scan

/-- The items of an array up to its closing bracket. -/
def arrayItems (item : Scanner Value) : Nat → Scanner (List Value)
  | 0, _ => none
  | fuel + 1, cs =>
    match skipVoid false cs with
    | ']' :: cs => some ([], cs)
    | cs => do
      let (v, cs) ← item cs
      match skipVoid false cs with
      | ']' :: cs => return ([v], cs)
      | ',' :: cs =>
        let (vs, cs) ← arrayItems item fuel cs
        return (v :: vs, cs)
      | _ => none

/-- A key with its value. -/
def pair (item : Scanner Value) : Scanner (List String × Value) := fun cs => do
  let (k, cs) ← key cs
  let cs ← word ['='] cs
  let (v, cs) ← item (skipBlanks cs)
  return ((k, v), cs)

/-- The keys and values of an inline table up to its closing brace. -/
def inlinePairs (item : Scanner Value) : Nat → Scanner (List (List String × Value))
  | 0, _ => none
  | fuel + 1, cs => do
    let (p, cs) ← pair item cs
    match skipBlanks cs with
    | '\x7d' :: cs => return ([p], cs)
    | ',' :: cs =>
      let (ps, cs) ← inlinePairs item fuel cs
      return (p :: ps, cs)
    | _ => none

/-- The members of an inline table after its opening brace. -/
def inlineTable (item : Scanner Value) : Scanner Value := fun cs =>
  match skipBlanks cs with
  | '\x7d' :: cs => some (.table [], cs)
  | cs => do
    let (ps, cs) ← inlinePairs item (cs.length + 1) cs
    return (.table (Node.toValues (← Members.defineAll ps [])), cs)

/-- A value, in which so many more arrays and inline tables may be opened. -/
def value : Nat → Scanner Value
  | nesting, cs =>
    match cs with
    | '"' :: _ => (string cs).map fun r => (.string r.1, r.2)
    | '\'' :: _ => (string cs).map fun r => (.string r.1, r.2)
    | '[' :: cs =>
      match nesting with
      | 0 => none
      | nesting + 1 =>
        (arrayItems (value nesting) (cs.length + 1) cs).map fun r => (.array r.1, r.2)
    | '\x7b' :: cs =>
      match nesting with
      | 0 => none
      | nesting + 1 => inlineTable (value nesting) cs
    | cs => scalar cs

/-- A header after its opening bracket. -/
def header : Scanner Header
  | '[' :: cs => do
    let (path, cs) ← key cs
    return (.element path, ← word [']', ']'] cs)
  | cs => do
    let (path, cs) ← key cs
    return (.table path, ← word [']'] cs)

/-- A line that defines something. -/
inductive Line where
  | header (h : Header)
  | pair (path : List String) (v : Value)

/-- A line from its first character that is not blank up to its end. -/
def line : Scanner Line
  | '[' :: cs => do
    let (h, cs) ← header cs
    return (.header h, ← endLine cs)
  | cs => do
    let ((path, v), cs) ← pair (value maxNesting) cs
    return (.pair path v, ← endLine cs)

/-- All lines of a text. -/
def lines : Nat → List Char → Option (List Line)
  | 0, _ => none
  | fuel + 1, cs =>
    match skipBlanks cs with
    | [] => some []
    | '#' :: cs => do lines fuel (← endLine ('#' :: cs))
    | cs =>
      match newline cs with
      | some cs => lines fuel cs
      | none => do
        let (l, cs) ← line cs
        return l :: (← lines fuel cs)

/-- Cuts lines into the keys before the first header and the sections. -/
def sections : List Line → List (List String × Value) × List Section
  | [] => ([], [])
  | .pair path v :: rest => let r := sections rest; ((path, v) :: r.1, r.2)
  | .header h :: rest => let r := sections rest; ([], ⟨h, r.1⟩ :: r.2)

/-- A text without the mark that may stand at its front. -/
def dropMark : List Char → List Char
  | '\uFEFF' :: cs => cs
  | cs => cs

end Scan

/-- Reads a text as a table; none if it is no TOML. -/
def read (text : String) : Option (List (String × Value)) := do
  let cs := Scan.dropMark text.toList
  let ls ← Scan.lines (cs.length + 1) cs
  let (pairs, sections) := Scan.sections ls
  assemble pairs sections

end Tidemark.Toml
