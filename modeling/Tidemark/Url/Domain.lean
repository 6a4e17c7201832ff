import Tidemark.Text.Composed
import Tidemark.Text.Pieces
import Tidemark.Url.Domain.Direction
import Tidemark.Url.Domain.Joiner
import Tidemark.Url.Fault
import Tidemark.Url.Punycode

/-!
# Domain names

A domain name is written in ASCII and in lower case.  Its characters are folded and composed first,
then it is cut into labels, and each label that still holds characters beyond ASCII is written in
Punycode.  A label that comes in Punycode must be what such a label is written as.
-/

namespace Tidemark.Url.Domain

/-- A text as domain names hold it. -/
def normalize (cs : List Char) : List Char :=
  Text.composed (cs.flatMap fold)

/-- Whether a character is beyond ASCII. -/
def isBeyondAscii (c : Char) : Bool :=
  127 < c.toNat

/-! ### Labels -/

/-- The mark in front of a label in Punycode. -/
def mark : List Char := ['x', 'n', '-', '-']

/-- The greatest length of Punycode that is read. -/
def maxPunycode : Nat := 2000

/-- The greatest length of a label beyond ASCII. -/
def maxLabel : Nat := 1000

/-- Whether a label beyond ASCII is well-formed. -/
def isWellFormed (label : List Char) : Bool :=
  label.length ≤ maxLabel && !(label.head?.any Text.isMark) && joinersFit [] label

/-- The label beyond ASCII that Punycode stands for. -/
def decodeLabel? (code : List Char) : Option (List Char) :=
  if maxPunycode < code.length then none
  else (Punycode.decode code).filter fun label =>
    label.any isBeyondAscii && normalize label = label
      && !(label.any fun c => c = '.' || isForbidden c)

/-- The characters of a label, Punycode decoded. -/
def readLabel (label : List Char) : Except Fault (List Char) :=
  if label.any isForbidden then .error .invalidDomain
  else
    let text? :=
      if mark.isPrefixOf label then
        if label.any isBeyondAscii then none else decodeLabel? (label.drop mark.length)
      else some label
    match text? with
    | some text =>
      if text.any isBeyondAscii ∧ ¬ isWellFormed text then .error .invalidDomain else .ok text
    | none => .error .invalidDomain

/-- A label in ASCII. -/
def writeLabel (label : List Char) : List Char :=
  if label.any isBeyondAscii then mark ++ Punycode.encode label else label

/-! ### Names -/

/-- Cuts a domain name into its labels. -/
def labels (cs : List Char) : List (List Char) :=
  Text.pieces '.' cs

/-- A domain name in lower case and in ASCII. -/
def toAscii (cs : List Char) : Except Fault (List Char) := do
  let ls ← (labels (normalize cs)).mapM readLabel
  if ls.any turns ∧ ¬ ls.all keepsTogether then throw .invalidDomain
  return Text.joinPieces '.' (ls.map writeLabel)

end Tidemark.Url.Domain
