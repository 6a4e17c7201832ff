import Tidemark.Text.Quoted
import Tidemark.Toml.Document

/-!
# Reading records from TOML values

A text is read as a table first and then member by member, in the order of definition, so that the
first member that is not wanted, or not as wanted, is the one that is reported.  Fields that are
not there are looked for last.  A record may also be written as the array of its fields.
-/

namespace Tidemark.Toml

/-- Why a text is not read as a record. -/
inductive Fault where
  | malformed
  | unknownField (name : String) (expected : List String)
  | missingField (name : String)
  | wrongType (found : Value) (wanted : String)
  | outOfRange (n : Int) (wanted : String)
  | invalidLength (length : Nat) (shape : String) (size : Nat)

namespace Fault

/-- The wording of a value that is not as wanted. -/
def foundText : Value → String
  | .string s => "string " ++ Text.quoted s
  | .integer n => "integer `" ++ toString n ++ "`"
  | .real x => "floating point `" ++ x.render ++ "`"
  | .boolean true => "boolean `true`"
  | .boolean false => "boolean `false`"
  | .moment => "map"
  | .array _ => "sequence"
  | .table _ => "map"

/-- Names in backquotes with commas between them. -/
def nameList (names : List String) : String :=
  String.intercalate ", " (names.map fun n => "`" ++ n ++ "`")

/-- The wording of a fault. -/
def message : Fault → String
  | .malformed => "toml syntax error"
  | .unknownField name expected =>
    "unknown field `" ++ name ++ "`, expected one of " ++ nameList expected
  | .missingField name => "missing field `" ++ name ++ "`"
  | .wrongType found wanted => "invalid type: " ++ foundText found ++ ", expected " ++ wanted
  | .outOfRange n wanted => "invalid value: integer `" ++ toString n ++ "`, expected " ++ wanted
  | .invalidLength length shape size =>
    "invalid length " ++ toString length ++ ", expected struct " ++ shape ++ " with "
      ++ toString size ++ " elements"

end Fault

/-- Reads an `α` from a value. -/
abbrev Decoder (α : Type) := Value → Except Fault α

namespace Decoder

/-- A string, described in messages by what it is for. -/
def stringFor (wanted : String) : Decoder String
  | .string s => .ok s
  | v => .error (.wrongType v wanted)

/-- A string. -/
def string : Decoder String :=
  stringFor "a string"

/-- A natural number below a bound. -/
def below (bound : Nat) (wanted : String) : Decoder Nat
  | .integer n => if 0 ≤ n ∧ n < bound then .ok n.toNat else .error (.outOfRange n wanted)
  | v => .error (.wrongType v wanted)

/-- A count of 32 bits. -/
def uint32 : Decoder UInt32 := fun v =>
  (below 0x100000000 "u32" v).map UInt32.ofNat

/-- A count of 64 bits. -/
def uint64 : Decoder UInt64 := fun v =>
  (below 0x10000000000000000 "u64" v).map UInt64.ofNat

/-- A sequence of values of one kind. -/
def list {α : Type} (item : Decoder α) : Decoder (List α)
  | .array items => items.mapM item
  | v => .error (.wrongType v "a sequence")

/-! ### Records -/

/-- A field of a record: its name, whether it may be absent, and how its value is put into the
record. -/
structure FieldDecoder (σ : Type) where
  name : String
  optional : Bool
  read : σ → Value → Except Fault σ

variable {σ : Type}

/-- A field whose value is read by a decoder. -/
def field {α : Type} (name : String) (optional : Bool) (decoder : Decoder α) (put : σ → α → σ) :
    FieldDecoder σ :=
  ⟨name, optional, fun s v => (decoder v).map (put s)⟩

/-- Reads the members of a record in their order. -/
def members (fields : List (FieldDecoder σ)) : List (String × Value) → σ → Except Fault σ
  | [], s => .ok s
  | (k, v) :: rest, s =>
    match fields.find? (·.name = k) with
    | none => .error (.unknownField k (fields.map FieldDecoder.name))
    | some f => do members fields rest (← f.read s v)

/-- The first field that must be present and is not among the members. -/
def missing? (fields : List (FieldDecoder σ)) (ms : List (String × Value)) :
    Option (FieldDecoder σ) :=
  fields.find? fun f => !f.optional && !ms.any (·.1 = f.name)

/-- Reads a record from the members of a table. -/
def recordOf (fields : List (FieldDecoder σ)) (start : σ) (ms : List (String × Value)) :
    Except Fault σ := do
  let s ← members fields ms start
  match missing? fields ms with
  | some f => throw (.missingField f.name)
  | none => return s

/-- Reads a record that is written as the sequence of its fields; surplus items do not matter. -/
def items (shape : String) (size : Nat) : List (FieldDecoder σ) → List Value → σ → Except Fault σ
  | [], _, s => .ok s
  | f :: fields, v :: vs, s => do items shape size fields vs (← f.read s v)
  | f :: fields, [], s =>
    if f.optional then items shape size fields [] s
    else .error (.invalidLength (size - fields.length - 1) shape size)

/-- The name under which a date or a time presents itself where a record is wanted. -/
def momentField : String := "$__toml_private_datetime"

/-- Reads a record of the given shape into an initial value. -/
def record (shape : String) (fields : List (FieldDecoder σ)) (start : σ) : Decoder σ
  | .table ms => recordOf fields start ms
  | .array vs => items shape fields.length fields vs start
  | .moment => .error (.unknownField momentField (fields.map FieldDecoder.name))
  | v => .error (.wrongType v ("struct " ++ shape))

/-- Reads a whole text as a record. -/
def readAll (fields : List (FieldDecoder σ)) (start : σ) (text : String) : Except Fault σ :=
  match Toml.read text with
  | none => .error .malformed
  | some ms => recordOf fields start ms

end Decoder

end Tidemark.Toml
