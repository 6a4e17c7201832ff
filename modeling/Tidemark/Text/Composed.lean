import Tidemark.Text.CombiningClass
import Tidemark.Text.Decomposition

/-!
# The composed form of a text

Two texts that stand for the same characters have the same composed form.  Characters are taken
apart, the marks after each are arranged by their classes, and then each mark is joined to the
character that it belongs to wherever there is one character for both.
-/

namespace Tidemark.Text

/-- A character with its combining class. -/
abbrev Ranked := Char × Nat

/-- A character of a text with its class. -/
def ranked (c : Char) : Ranked :=
  (c, combiningClass c)

/-- Puts a character in its place before arranged ones: a mark goes behind the marks of lower
classes. -/
def insertMark (c : Ranked) : List Ranked → List Ranked
  | [] => [c]
  | d :: ds => if d.2 ≠ 0 ∧ d.2 < c.2 then d :: insertMark c ds else c :: d :: ds

/-- Arranges marks that follow one another by their classes; those of one class keep their order. -/
def arrange : List Ranked → List Ranked
  | [] => []
  | c :: cs => insertMark c (arrange cs)

/-- Joins what follows a character to it.  Between the character and the rest stand marks that it
could not be joined with, the last first; a mark cannot pass one of its own class or a higher
one. -/
def composeAfter (base : Char) (held : List Ranked) : List Ranked → List Char
  | [] => base :: (held.map Prod.fst).reverse
  | (c, k) :: cs =>
    let isBlocked := match held with
      | [] => false
      | d :: _ => k ≤ d.2
    match if isBlocked then none else composition? base c with
    | some p => composeAfter p held cs
    | none =>
      if k = 0 then base :: (held.map Prod.fst).reverse ++ composeAfter c [] cs
      else composeAfter base ((c, k) :: held) cs

/-- Joins marks to the characters before them; marks at the front have none. -/
def compose : List Ranked → List Char
  | [] => []
  | (c, k) :: cs => if k = 0 then composeAfter c [] cs else c :: compose cs

/-- The composed form of a text. -/
def composed (cs : List Char) : List Char :=
  if cs.all fun c => c.toNat < 0x80 then cs
  else compose (arrange ((cs.flatMap decomposition).map ranked))

end Tidemark.Text
