import Tidemark.Json.Scan

/-!
# Reading values and records from a JSON text

A `Decoder` reads one value from the front of a text and returns what is left.  Decoders for
sequences, objects and records are built from decoders for their parts, so that the first fault in
text order is the one that is reported, whatever its kind.  Containers may be nested 127 deep;
members that nobody asks for are passed over without that limit.
-/

namespace Tidemark.Json

/-- Reads a value, given how many containers may still be opened around it. -/
abbrev Decoder (α : Type) := Nat → List Char → Except Fault (α × List Char)

namespace Decoder

/-- How many containers may be open at once. -/
def maxDepth : Nat := 127

/-! ### The steps inside a container -/

/-- Moves to the next item of a sequence whose opening bracket was read: none if the closing
bracket follows, otherwise the text of the item. -/
def nextItem (first : Bool) (cs : List Char) : Except Fault (Option (List Char)) :=
  match Scan.skipSpace cs with
  | ']' :: _ => .ok none
  | ',' :: cs =>
    if first then .ok (some (',' :: cs))
    else
      match Scan.skipSpace cs with
      | ']' :: _ => .error .malformed
      | cs => .ok (some cs)
  | cs => if first ∧ cs ≠ [] then .ok (some cs) else .error .malformed

/-- Reads the closing bracket of a sequence. -/
def closeItems (cs : List Char) : Except Fault (List Char) :=
  Scan.expect [']'] (Scan.skipSpace cs)

/-- Moves to the next key of an object whose opening brace was read: none if the closing brace
follows, otherwise the text after the quotation mark of the key. -/
def nextKey (first : Bool) (cs : List Char) : Except Fault (Option (List Char)) :=
  match Scan.skipSpace cs with
  | '\x7d' :: _ => .ok none
  | '"' :: cs => if first then .ok (some cs) else .error .malformed
  | ',' :: cs =>
    if first then .error .malformed
    else
      match Scan.skipSpace cs with
      | '"' :: cs => .ok (some cs)
      | _ => .error .malformed
  | _ => .error .malformed

/-- Reads the colon after a key. -/
def colon (cs : List Char) : Except Fault (List Char) :=
  Scan.expect [':'] (Scan.skipSpace cs)

/-- Reads the closing brace of an object. -/
def closeMembers (cs : List Char) : Except Fault (List Char) :=
  Scan.expect ['\x7d'] (Scan.skipSpace cs)

/-- Reads the items of a sequence up to its closing bracket. -/
def items {α : Type} (item : List Char → Except Fault (α × List Char)) :
    Nat → Bool → List Char → Except Fault (List α × List Char)
  | 0, _, _ => .error .malformed
  | fuel + 1, first, cs => do
    match ← nextItem first cs with
    | none => return ([], cs)
    | some cs =>
      let (v, cs) ← item cs
      let (vs, cs) ← items item fuel false cs
      return (v :: vs, cs)

/-- Reads the members of an object up to its closing brace. -/
def members {κ α : Type} (key : List Char → Except Fault (κ × List Char))
    (value : List Char → Except Fault (α × List Char)) :
    Nat → Bool → List Char → Except Fault (List (κ × α) × List Char)
  | 0, _, _ => .error .malformed
  | fuel + 1, first, cs => do
    match ← nextKey first cs with
    | none => return ([], cs)
    | some cs =>
      let (k, cs) ← key cs
      let cs ← colon cs
      let (v, cs) ← value cs
      let (ms, cs) ← members key value fuel false cs
      return ((k, v) :: ms, cs)

/-- Reads a key whose quotation mark was read. -/
def key (cs : List Char) : Except Fault (String × List Char) :=
  (Scan.stringBody cs).map fun r => (String.ofList r.1, r.2)

/-- Passes over a key. -/
def skipKey (cs : List Char) : Except Fault (Unit × List Char) :=
  (Scan.skipStringBody cs).map fun cs => ((), cs)

/-! ### Whole values -/

/-- Reads a value of any kind. -/
def value : Decoder Json
  | depth, cs =>
    match Scan.skipSpace cs with
    | 'n' :: cs => (Scan.expect ['u', 'l', 'l'] cs).map fun cs => (.null, cs)
    | 't' :: cs => (Scan.expect ['r', 'u', 'e'] cs).map fun cs => (.bool true, cs)
    | 'f' :: cs => (Scan.expect ['a', 'l', 's', 'e'] cs).map fun cs => (.bool false, cs)
    | '"' :: cs => (Scan.stringBody cs).map fun r => (.string (String.ofList r.1), r.2)
    | '[' :: cs =>
      match depth with
      | 0 => .error .malformed
      | depth + 1 => do
        let (vs, cs) ← items (value depth) (cs.length + 1) true cs
        return (.array vs, ← closeItems cs)
    | '\x7b' :: cs =>
      match depth with
      | 0 => .error .malformed
      | depth + 1 => do
        let (ms, cs) ← members key (value depth) (cs.length + 1) true cs
        return (Json.ofMembers ms, ← closeMembers cs)
    | cs => (Scan.numeral cs).map fun r => (.number r.1, r.2)

/-- Passes over a value, nested at most as deep as the given number. -/
def skipWithin : Nat → List Char → Except Fault (Unit × List Char)
  | depth, cs =>
    match Scan.skipSpace cs with
    | 'n' :: cs => (Scan.expect ['u', 'l', 'l'] cs).map fun cs => ((), cs)
    | 't' :: cs => (Scan.expect ['r', 'u', 'e'] cs).map fun cs => ((), cs)
    | 'f' :: cs => (Scan.expect ['a', 'l', 's', 'e'] cs).map fun cs => ((), cs)
    | '"' :: cs => (Scan.skipStringBody cs).map fun cs => ((), cs)
    | '[' :: cs =>
      match depth with
      | 0 => .error .malformed
      | depth + 1 => do
        let (_, cs) ← items (skipWithin depth) (cs.length + 1) true cs
        return ((), ← closeItems cs)
    | '\x7b' :: cs =>
      match depth with
      | 0 => .error .malformed
      | depth + 1 => do
        let (_, cs) ← members skipKey (skipWithin depth) (cs.length + 1) true cs
        return ((), ← closeMembers cs)
    | cs => (Scan.literal cs).map fun r => ((), r.2)

/-- Passes over a value, however deeply it is nested. -/
def skip (cs : List Char) : Except Fault (Unit × List Char) :=
  skipWithin cs.length cs

/-- The fault of finding a value of another kind; the value is read as far as the message needs. -/
def wrongType {α : Type} (wanted : String) (cs : List Char) : Except Fault α :=
  match Scan.skipSpace cs with
  | 'n' :: cs => do
    let _ ← Scan.expect ['u', 'l', 'l'] cs
    throw (.wrongType .null wanted)
  | 't' :: cs => do
    let _ ← Scan.expect ['r', 'u', 'e'] cs
    throw (.wrongType (.bool true) wanted)
  | 'f' :: cs => do
    let _ ← Scan.expect ['a', 'l', 's', 'e'] cs
    throw (.wrongType (.bool false) wanted)
  | '"' :: cs => do
    let (s, _) ← Scan.stringBody cs
    throw (.wrongType (.string (String.ofList s)) wanted)
  | '[' :: _ => .error (.wrongType .sequence wanted)
  | '\x7b' :: _ => .error (.wrongType .map wanted)
  | cs => do
    let (n, _) ← Scan.numeral cs
    throw (.wrongType (.number n) wanted)

/-- Reads a string that a rule accepts, turning it into a value. -/
def stringWith {α : Type} (wanted : String) (rule : String → Except String α) : Decoder α :=
  fun _ cs =>
    match Scan.skipSpace cs with
    | '"' :: rest => do
      let (s, rest) ← Scan.stringBody rest
      match rule (String.ofList s) with
      | .ok v => return (v, rest)
      | .error reason => throw (.refused reason)
    | cs => wrongType wanted cs

/-- Reads a string. -/
def string : Decoder String :=
  stringWith "a string" .ok

/-- Reads a sequence of values of one kind. -/
def list {α : Type} (item : Decoder α) : Decoder (List α) :=
  fun depth cs =>
    match Scan.skipSpace cs with
    | '[' :: rest =>
      match depth with
      | 0 => .error .malformed
      | depth + 1 => do
        let (vs, rest) ← items (item depth) (rest.length + 1) true rest
        return (vs, ← closeItems rest)
    | cs => wrongType "a sequence" cs

/-- Reads an object with values of one kind, in key order. -/
def map {α : Type} (item : Decoder α) : Decoder (List (String × α)) :=
  fun depth cs =>
    match Scan.skipSpace cs with
    | '\x7b' :: rest =>
      match depth with
      | 0 => .error .malformed
      | depth + 1 => do
        let (ms, rest) ← members key (item depth) (rest.length + 1) true rest
        return (Members.ofPairs ms, ← closeMembers rest)
    | cs => wrongType "a map" cs

/-! ### Records -/

/-- A field of a record: its name, whether it may be absent, and how its value is read into the
record. -/
structure FieldDecoder (σ : Type) where
  name : String
  optional : Bool
  read : σ → Decoder σ

variable {σ : Type}

/-- The first field that must be present and is not among the names seen. -/
def missing? (fields : List (FieldDecoder σ)) (seen : List String) : Option (FieldDecoder σ) :=
  fields.find? fun f => !f.optional && !seen.contains f.name

/-- Reads the members of a record in any order; members that are no field are passed over. -/
def recordMembers (fields : List (FieldDecoder σ)) (depth : Nat) :
    Nat → Bool → List String → σ → List Char → Except Fault (σ × List Char)
  | 0, _, _, _, _ => .error .malformed
  | fuel + 1, first, seen, s, cs => do
    match ← nextKey first cs with
    | none =>
      match missing? fields seen with
      | some f => throw (.missingField f.name)
      | none => return (s, cs)
    | some cs =>
      let (k, cs) ← key cs
      match fields.find? (·.name = k) with
      | none =>
        let cs ← colon cs
        let (_, cs) ← skip cs
        recordMembers fields depth fuel false seen s cs
      | some f =>
        if seen.contains k then throw (.duplicateField k)
        let cs ← colon cs
        let (s, cs) ← f.read s depth cs
        recordMembers fields depth fuel false (k :: seen) s cs

/-- Reads a record that is written as the sequence of its fields.  Fields that may be absent may be
left out at the end. -/
def recordItems (shape : String) (size depth : Nat) :
    List (FieldDecoder σ) → Nat → σ → List Char → Except Fault (σ × List Char)
  | [], _, s, cs => .ok (s, cs)
  | f :: fields, count, s, cs => do
    match ← nextItem (count = 0) cs with
    | none =>
      if f.optional then recordItems shape size depth fields count s cs
      else throw (.invalidLength (size - fields.length - 1) shape size)
    | some cs =>
      let (s, cs) ← f.read s depth cs
      recordItems shape size depth fields (count + 1) s cs

/-- Reads a record of the given shape into an initial value. -/
def record (shape : String) (fields : List (FieldDecoder σ)) (start : σ) : Decoder σ :=
  fun depth cs =>
    match Scan.skipSpace cs with
    | '\x7b' :: rest =>
      match depth with
      | 0 => .error .malformed
      | depth + 1 => do
        let (s, rest) ← recordMembers fields depth (rest.length + 1) true [] start rest
        return (s, ← closeMembers rest)
    | '[' :: rest =>
      match depth with
      | 0 => .error .malformed
      | depth + 1 => do
        let (s, rest) ← recordItems shape fields.length depth fields 0 start rest
        return (s, ← closeItems rest)
    | cs => wrongType ("struct " ++ shape) cs

/-- Reads a whole text: one value with nothing but blanks after it. -/
def readAll {α : Type} (d : Decoder α) (text : String) : Except Fault α := do
  let (v, rest) ← d maxDepth text.toList
  match Scan.skipSpace rest with
  | [] => return v
  | _ => throw .malformed

end Decoder

/-- Reads a JSON text. -/
def read (text : String) : Except Fault Json :=
  Decoder.readAll Decoder.value text

end Tidemark.Json
