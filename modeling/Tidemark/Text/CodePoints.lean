import Tidemark.Text.Pieces

/-!
# Sets and maps of characters in writing

A property that many characters share is written as spans of code points in hexadecimal digits with
blanks between them, such as `41-5A 61`.  A map from characters to texts is written as a code point
and the code points of its image, such as `C0:41.300`; an image that stands alone belongs to the
character after the last one, and the characters of a span have images one after another.
-/

namespace Tidemark.Text

/-- The words of a text: what stands between spaces and line ends. -/
def words (s : String) : List (List Char) :=
  (pieces ' ' (s.toList.map fun c => if c = '\n' then ' ' else c)).filter (· ≠ [])

/-- The value of hexadecimal digits in upper case. -/
def hexNumber (cs : List Char) : Nat :=
  cs.foldl (fun n c => 16 * n + if c ≤ '9' then c.toNat - '0'.toNat else c.toNat - 'A'.toNat + 10) 0

/-- Code points that follow one another. -/
structure Span where
  first : Nat
  last : Nat
  deriving DecidableEq, Repr

namespace Span

/-- Reads a code point, or two with a hyphen between them. -/
def read (cs : List Char) : Span :=
  match pieces '-' cs with
  | [a, b] => ⟨hexNumber a, hexNumber b⟩
  | _ => ⟨hexNumber cs, hexNumber cs⟩

/-- Whether a code point is in a span. -/
def holds (r : Span) (n : Nat) : Bool :=
  r.first ≤ n && n ≤ r.last

end Span

/-- A set of characters. -/
abbrev CharSet := List Span

namespace CharSet

/-- Reads a set. -/
def read (s : String) : CharSet :=
  (words s).map Span.read

/-- Whether a character is in a set. -/
def has (s : CharSet) (c : Char) : Bool :=
  s.any (·.holds c.toNat)

end CharSet

/-- Characters that follow one another, and the image of the first of them. -/
structure Image where
  span : Span
  value : List Nat
  deriving DecidableEq, Repr

/-- A map from characters to texts. -/
abbrev CharMap := List Image

namespace CharMap

/-- Reads the images of a map; the code point is that of the character after the last one. -/
def readFrom : Nat → List (List Char) → CharMap
  | _, [] => []
  | next, w :: ws =>
    let numbers := fun cs => (pieces '.' cs).map hexNumber
    let image : Image :=
      match pieces ':' w with
      | [a, b] => ⟨Span.read a, numbers b⟩
      | _ => ⟨⟨next, next⟩, numbers w⟩
    image :: readFrom (image.span.last + 1) ws

/-- Reads a map. -/
def read (s : String) : CharMap :=
  readFrom 0 (words s)

/-- The image of a character. -/
def image? (m : CharMap) (c : Char) : Option (List Char) :=
  (m.find? fun i => i.span.holds c.toNat).map fun i =>
    i.value.map fun n => Char.ofNat (n + (c.toNat - i.span.first))

/-- The character whose image is a text. -/
def origin? (m : CharMap) (cs : List Char) : Option Char :=
  let value := cs.map Char.toNat
  (m.find? fun i => i.value = value).map fun i => Char.ofNat i.span.first

end CharMap

end Tidemark.Text
