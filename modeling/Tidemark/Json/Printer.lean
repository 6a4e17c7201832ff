import Tidemark.Json.Basic
import Tidemark.Number.Shortest

/-!
# JSON text

The compact text of a value has no blanks; the pretty text puts every item and member on a line of
its own, indented by two spaces a level.  Only the quotation mark, the backslash and the control
characters below the space are escaped.
-/

namespace Tidemark.Json

/-- Doubles are written without an exponent from `1e-5` up to below `1e16`. -/
def realLayout : Number.Layout := ⟨-5, 16⟩

/-- A hexadecimal digit in lower case. -/
def hexDigit (n : Nat) : Char :=
  (Nat.digitChar n)

/-- A character inside a string. -/
def escapeChar (c : Char) : List Char :=
  if c = '"' then ['\\', '"']
  else if c = '\\' then ['\\', '\\']
  else if c = '\x08' then ['\\', 'b']
  else if c = '\x09' then ['\\', 't']
  else if c = '\x0a' then ['\\', 'n']
  else if c = '\x0c' then ['\\', 'f']
  else if c = '\x0d' then ['\\', 'r']
  else if c.toNat < 0x20 then
    ['\\', 'u', '0', '0', hexDigit (c.toNat / 16), hexDigit (c.toNat % 16)]
  else [c]

/-- A string with its quotation marks. -/
def quoteChars (cs : List Char) : List Char :=
  '"' :: cs.flatMap escapeChar ++ ['"']

namespace Numeral

/-- An integer in decimal. -/
def renderInt (n : Int) : List Char :=
  if n < 0 then '-' :: Nat.toDigits 10 n.natAbs else Nat.toDigits 10 n.natAbs

/-- The text of a number. -/
def render : Numeral → List Char
  | .integer n => renderInt n
  | .real x => (x.render realLayout).toList

end Numeral

mutual

/-- The compact text of a value. -/
def compactChars : Json → List Char
  | .null => ['n', 'u', 'l', 'l']
  | .bool true => ['t', 'r', 'u', 'e']
  | .bool false => ['f', 'a', 'l', 's', 'e']
  | .number n => n.render
  | .string s => quoteChars s.toList
  | .array items => '[' :: compactItems items ++ [']']
  | .object members => '\x7b' :: compactMembers members ++ ['\x7d']

/-- Items with commas between them. -/
def compactItems : List Json → List Char
  | [] => []
  | [v] => compactChars v
  | v :: w :: rest => compactChars v ++ ',' :: compactItems (w :: rest)

/-- Members with commas between them. -/
def compactMembers : List (String × Json) → List Char
  | [] => []
  | [(k, v)] => quoteChars k.toList ++ ':' :: compactChars v
  | (k, v) :: m :: rest =>
    quoteChars k.toList ++ ':' :: compactChars v ++ ',' :: compactMembers (m :: rest)

end

/-- A new line with the indentation of a level. -/
def newLine (level : Nat) : List Char :=
  '\n' :: List.replicate (2 * level) ' '

mutual

/-- The pretty text of a value at a level of indentation. -/
def prettyChars (level : Nat) : Json → List Char
  | .array [] => ['[', ']']
  | .array (v :: rest) =>
    '[' :: prettyItems (level + 1) (v :: rest) ++ newLine level ++ [']']
  | .object [] => ['\x7b', '\x7d']
  | .object (m :: rest) =>
    '\x7b' :: prettyMembers (level + 1) (m :: rest) ++ newLine level ++ ['\x7d']
  | .null => ['n', 'u', 'l', 'l']
  | .bool true => ['t', 'r', 'u', 'e']
  | .bool false => ['f', 'a', 'l', 's', 'e']
  | .number n => n.render
  | .string s => quoteChars s.toList

/-- Items on lines of their own. -/
def prettyItems (level : Nat) : List Json → List Char
  | [] => []
  | [v] => newLine level ++ prettyChars level v
  | v :: w :: rest => newLine level ++ prettyChars level v ++ ',' :: prettyItems level (w :: rest)

/-- Members on lines of their own. -/
def prettyMembers (level : Nat) : List (String × Json) → List Char
  | [] => []
  | [(k, v)] => newLine level ++ quoteChars k.toList ++ ':' :: ' ' :: prettyChars level v
  | (k, v) :: m :: rest =>
    newLine level ++ quoteChars k.toList ++ ':' :: ' ' :: prettyChars level v
      ++ ',' :: prettyMembers level (m :: rest)

end

/-- The compact text of a value. -/
def compact (v : Json) : String :=
  String.ofList (compactChars v)

/-- The pretty text of a value. -/
def pretty (v : Json) : String :=
  String.ofList (prettyChars 0 v)

end Tidemark.Json
