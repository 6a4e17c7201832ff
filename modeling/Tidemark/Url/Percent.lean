import Tidemark.Text.Pieces

/-!
# Percent encoding

A byte is written as `%` and two hexadecimal digits where the place in a URL does not let it stand
for itself.  Each place has its own set of characters to encode; characters beyond ASCII are always
encoded, byte by byte.  A form is a list of names and values, in which a plus stands for a space.
-/

namespace Tidemark.Url

namespace Percent

/-- A hexadecimal digit in upper case. -/
def hexDigit (n : Nat) : Char :=
  if n < 10 then Char.ofNat ('0'.toNat + n) else Char.ofNat ('A'.toNat + (n - 10))

/-- The value of a hexadecimal digit. -/
def hexValue? (c : Char) : Option Nat :=
  if '0' ≤ c ∧ c ≤ '9' then some (c.toNat - '0'.toNat)
  else if 'a' ≤ c ∧ c ≤ 'f' then some (c.toNat - 'a'.toNat + 10)
  else if 'A' ≤ c ∧ c ≤ 'F' then some (c.toNat - 'A'.toNat + 10)
  else none

/-- An encoded byte. -/
def encodeByte (b : UInt8) : List Char :=
  ['%', hexDigit (b.toNat / 16), hexDigit (b.toNat % 16)]

/-- The bytes of a character. -/
def bytesOf (c : Char) : List UInt8 :=
  (String.singleton c).toUTF8.toList

/-- An encoded character. -/
def encodeChar (c : Char) : List Char :=
  (bytesOf c).flatMap encodeByte

/-- Encodes the characters of a set. -/
def encode (isEncoded : Char → Bool) (cs : List Char) : List Char :=
  cs.flatMap fun c => if isEncoded c then encodeChar c else [c]

/-- The bytes of a text in which encoded bytes stand for themselves.  A percent sign that starts no
encoded byte is kept. -/
def decode : List Char → List UInt8
  | [] => []
  | '%' :: a :: b :: cs =>
    match hexValue? a, hexValue? b with
    | some x, some y => UInt8.ofNat (16 * x + y) :: decode cs
    | _, _ => bytesOf '%' ++ decode (a :: b :: cs)
  | c :: cs => bytesOf c ++ decode cs

/-! ### The sets of the places in a URL -/

/-- Controls and everything beyond ASCII. -/
def isControl (c : Char) : Bool :=
  c.toNat < 0x20 || 0x7E < c.toNat

/-- The set of a fragment. -/
def inFragment (c : Char) : Bool :=
  isControl c || c = ' ' || c = '"' || c = '<' || c = '>' || c = '\x60'

/-- The set of a query. -/
def inQuery (c : Char) : Bool :=
  isControl c || c = ' ' || c = '"' || c = '#' || c = '<' || c = '>'

/-- The set of a query after a special scheme. -/
def inSpecialQuery (c : Char) : Bool :=
  inQuery c || c = '\''

/-- The set of a path. -/
def inPath (c : Char) : Bool :=
  inFragment c || c = '#' || c = '?' || c = '\x7b' || c = '\x7d'

/-- The set of a user name and a password. -/
def inUserInfo (c : Char) : Bool :=
  inPath c || c = '/' || c = ':' || c = ';' || c = '=' || c = '@' || c = '[' || c = '\\' || c = ']'
    || c = '^' || c = '|'

end Percent

namespace Form

/-- The characters that stand for themselves in a form. -/
def isPlain (c : Char) : Bool :=
  ('a' ≤ c && c ≤ 'z') || ('A' ≤ c && c ≤ 'Z') || ('0' ≤ c && c ≤ '9')
    || c = '*' || c = '-' || c = '.' || c = '_'

/-- A character of a name or a value. -/
def encodeChar (c : Char) : List Char :=
  if isPlain c then [c] else if c = ' ' then ['+'] else Percent.encodeChar c

/-- A name or a value. -/
def encodeText (s : String) : List Char :=
  s.toList.flatMap encodeChar

/-- A name with its value. -/
def encodePair (p : String × String) : List Char :=
  encodeText p.1 ++ '=' :: encodeText p.2

/-- The text of a form. -/
def encode (ps : List (String × String)) : String :=
  String.ofList (Text.joinPieces '&' (ps.map encodePair))

/-- The name or value in a piece of a form; none if its bytes are no text. -/
def decodeText (cs : List Char) : Option String :=
  String.fromUTF8? ⟨(Percent.decode (cs.map fun c => if c = '+' then ' ' else c)).toArray⟩

/-- The name and the value in a piece of a form, which the first equals sign separates. -/
def decodePair (cs : List Char) : Option (String × String) := do
  let name ← decodeText (cs.takeWhile (· ≠ '='))
  let value ← decodeText ((cs.dropWhile (· ≠ '=')).drop 1)
  return (name, value)

/-- The names and values of a form. -/
def decode (s : String) : Option (List (String × String)) :=
  ((Text.pieces '&' s.toList).filter (· ≠ [])).mapM decodePair

end Form

end Tidemark.Url
