/-!
# Pieces between separators

`pieces x` cuts a list of characters at every `x`; between two separators, before the first and
after the last there is always a piece, which may be empty.  `joinPieces` puts the separators back.
-/

namespace Tidemark.Text

/-- The pieces between the occurrences of a separator. -/
def pieces (x : Char) : List Char → List (List Char)
  | [] => [[]]
  | c :: cs =>
    if c = x then [] :: pieces x cs
    else
      match pieces x cs with
      | [] => [[c]]
      | p :: ps => (c :: p) :: ps

/-- The pieces with a separator between each two. -/
def joinPieces (x : Char) : List (List Char) → List Char
  | [] => []
  | [p] => p
  | p :: q :: ps => p ++ x :: joinPieces x (q :: ps)

theorem pieces_ne_nil (x : Char) (cs : List Char) : pieces x cs ≠ [] := by
  cases cs with
  | nil => simp [pieces]
  | cons c cs =>
    simp only [pieces]
    split
    · simp
    · split <;> simp

end Tidemark.Text
