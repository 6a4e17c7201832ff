import Mathlib.Tactic.Common
import Tidemark.Text.Pieces

/-!
# Cutting and joining

Cutting a list of characters at a separator is `List.splitOn`, and joining the pieces again is
`List.intercalate` (`pieces_eq_splitOn`, `joinPieces_eq_intercalate`), so that what is known of
these holds of pieces.  No piece holds a separator (`not_mem_of_mem_pieces`); a separator ends one
piece and begins the next, even an empty one (`pieces_append_cons`); and pieces that were joined are
found again (`pieces_joinPieces`).
-/

namespace Tidemark.Text

variable {x : Char}

/-- Pieces are what is left between the separators. -/
lemma pieces_eq_splitOn (x : Char) (cs : List Char) : pieces x cs = cs.splitOn x := by
  induction cs with
  | nil => rfl
  | cons c cs ih =>
    rw [pieces, List.splitOn_cons_eq_if_modifyHead, ih]
    by_cases hc : c = x
    · simp [hc]
    · obtain ⟨p, ps, hps⟩ := List.exists_cons_of_ne_nil (List.splitOn_ne_nil x cs)
      simp [hc, hps]

/-- Joining pieces puts the separator between them. -/
lemma joinPieces_eq_intercalate (x : Char) (ps : List (List Char)) :
    joinPieces x ps = [x].intercalate ps := by
  induction ps with
  | nil => rfl
  | cons p ps ih =>
    cases ps with
    | nil => simp [joinPieces]
    | cons q ps => rw [joinPieces, ih, List.intercalate_cons_cons]; simp

/-- A text without separators is one piece. -/
lemma pieces_of_not_mem {cs : List Char} (h : x ∉ cs) : pieces x cs = [cs] := by
  rw [pieces_eq_splitOn, List.splitOn_eq_singleton]
  exact h

/-- A separator ends a piece and begins another. -/
lemma pieces_append_cons (x : Char) (cs ds : List Char) :
    pieces x (cs ++ x :: ds) = pieces x cs ++ pieces x ds := by
  rw [pieces_eq_splitOn, pieces_eq_splitOn, pieces_eq_splitOn, List.splitOn_append_cons_self]

/-- A separator at the end leaves an empty piece behind it. -/
lemma pieces_concat (x : Char) (cs : List Char) : pieces x (cs ++ [x]) = pieces x cs ++ [[]] :=
  pieces_append_cons x cs []

/-- Every separator at the end leaves an empty piece behind it. -/
lemma pieces_append_replicate (x : Char) (cs : List Char) (k : ℕ) :
    pieces x (cs ++ List.replicate k x) = pieces x cs ++ List.replicate k [] := by
  induction k with
  | zero => simp
  | succ k ih =>
    rw [List.replicate_succ', ← List.append_assoc, pieces_concat, ih, List.append_assoc,
      ← List.replicate_succ']

/-- A character at the end that is not a separator belongs to the last piece. -/
lemma exists_pieces_concat {c : Char} (hc : c ≠ x) (cs : List Char) :
    ∃ ps p, pieces x (cs ++ [c]) = ps ++ [p ++ [c]] := by
  induction cs with
  | nil => exact ⟨[], [], by simp [pieces, hc]⟩
  | cons d cs ih =>
    obtain ⟨ps, p, hps⟩ := ih
    rw [List.cons_append, pieces, hps]
    split
    · exact ⟨[] :: ps, p, rfl⟩
    · cases ps with
      | nil => exact ⟨[], d :: p, rfl⟩
      | cons q ps => exact ⟨(d :: q) :: ps, p, rfl⟩

/-- No piece holds a separator. -/
lemma not_mem_of_mem_pieces {cs p : List Char} (hp : p ∈ pieces x cs) : x ∉ p := by
  induction cs generalizing p with
  | nil =>
    obtain rfl := List.mem_singleton.1 hp
    exact List.not_mem_nil
  | cons c cs ih =>
    obtain ⟨q, qs, hqs⟩ := List.exists_cons_of_ne_nil (pieces_ne_nil x cs)
    rw [hqs] at ih
    simp only [pieces, hqs] at hp
    split at hp
    · rcases List.mem_cons.1 hp with rfl | hp
      · exact List.not_mem_nil
      · exact ih hp
    · next hc =>
      rcases List.mem_cons.1 hp with rfl | hp
      · intro hx
        rcases List.mem_cons.1 hx with hx | hx
        · exact hc hx.symm
        · exact ih List.mem_cons_self hx
      · exact ih (List.mem_cons_of_mem q hp)

/-- Pieces without separators are found again once they are joined. -/
lemma pieces_joinPieces {ps : List (List Char)} (hne : ps ≠ []) (hps : ∀ p ∈ ps, x ∉ p) :
    pieces x (joinPieces x ps) = ps := by
  rw [joinPieces_eq_intercalate, pieces_eq_splitOn, List.splitOn_intercalate x hps hne]

/-- Joined pieces hold what the pieces hold, and separators. -/
lemma eq_or_exists_of_mem_joinPieces {c : Char} {ps : List (List Char)} (h : c ∈ joinPieces x ps) :
    c = x ∨ ∃ p ∈ ps, c ∈ p := by
  induction ps with
  | nil => cases h
  | cons p ps ih =>
    cases ps with
    | nil => exact .inr ⟨p, List.mem_cons_self, h⟩
    | cons q ps =>
      rw [joinPieces, List.mem_append, List.mem_cons] at h
      rcases h with hp | hx | htail
      · exact .inr ⟨p, List.mem_cons_self, hp⟩
      · exact .inl hx
      · rcases ih htail with hx | ⟨r, hr, hc⟩
        · exact .inl hx
        · exact .inr ⟨r, List.mem_cons_of_mem p hr, hc⟩

end Tidemark.Text
