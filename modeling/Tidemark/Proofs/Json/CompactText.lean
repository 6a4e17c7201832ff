import Tidemark.Proofs.Json.Denotation
import Tidemark.Proofs.Json.ValueText

/-!
# The compact text

The compact text of a container is laid out without blanks (`laysOut_compactChars`), so that a value
is read back from it.  It is written on one line: nothing below the space is in a number, and in a
string it is escaped (`noControls_compactChars`).
-/

namespace Tidemark.Json

open Decoder

/-! ### Layout -/

lemma compactItems_eq (vs : List Json) :
    compactItems vs = joined [] true (vs.map compactChars) := by
  apply eq_joined
  · rw [compactItems]
  · exact fun v => by rw [compactItems, List.nil_append]
  · exact fun v w vs => by rw [compactItems, List.nil_append]

lemma compactMembers_eq (ms : List (String × Json)) :
    compactMembers ms = joined [] true
      ((ms.map fun m => (m.1, compactChars m.2)).map (memberText [])) := by
  rw [List.map_map]
  apply eq_joined
  · rw [compactMembers]
  · exact fun m => by simp [compactMembers, memberText]
  · exact fun m m' ms => by simp [compactMembers, memberText]

/-- The compact text puts no blanks between the parts of a container. -/
lemma laysOut_compactChars : LaysOut fun _ => compactChars where
  null _ := rfl
  bool _ _ := rfl
  number _ _ := rfl
  string _ _ := rfl
  array _ vs := ⟨[], [], nofun, nofun, by rw [compactChars, compactItems_eq]; rfl⟩
  object _ ms := ⟨[], [], [], nofun, nofun, nofun, by rw [compactChars, compactMembers_eq]; rfl⟩

/-! ### Control characters -/

/-- A text holds no control character below the space. -/
def NoControls (cs : List Char) : Prop :=
  ∀ c ∈ cs, 0x20 ≤ c.toNat

instance : DecidablePred NoControls := fun cs =>
  decidable_of_iff (cs.all (0x20 ≤ ·.toNat) = true) (by simp [NoControls])

lemma NoControls.append {cs ds : List Char} (hcs : NoControls cs) (hds : NoControls ds) :
    NoControls (cs ++ ds) :=
  List.forall_mem_append.2 ⟨hcs, hds⟩

lemma NoControls.cons {c : Char} {cs : List Char} (hc : 0x20 ≤ c.toNat) (hcs : NoControls cs) :
    NoControls (c :: cs) :=
  List.forall_mem_cons.2 ⟨hc, hcs⟩

/-- A character is written without control characters. -/
lemma noControls_escapeChar (c : Char) : NoControls (escapeChar c) := by
  have hdigit : ∀ n < 16, NoControls [hexDigit n] := by decide
  unfold escapeChar
  split_ifs with _ _ _ _ _ _ _ hspace
  iterate 7 exact by decide
  · have hhex := (hdigit (c.toNat / 16) (by omega)).append (hdigit (c.toNat % 16) (by omega))
    have hfront : NoControls ['\\', 'u', '0', '0'] := by decide
    exact hfront.append hhex
  · exact .cons (Nat.le_of_not_lt hspace) nofun

/-- So is a string. -/
lemma noControls_quoteChars (cs : List Char) : NoControls (quoteChars cs) := by
  refine .cons (by decide) (.append ?_ (by decide))
  intro c hc
  obtain ⟨d, -, hc⟩ := List.mem_flatMap.1 hc
  exact noControls_escapeChar d c hc

/-- So is a number. -/
lemma noControls_render (n : Numeral) : NoControls n.render := by
  intro c hc
  have hnumeric := n.denotes_render.isNumeric c hc
  simp only [Scan.isNumeric, Char.isDigit, Bool.or_eq_true, Bool.and_eq_true, decide_eq_true_eq]
    at hnumeric
  rcases hnumeric with ((((⟨hdigit, -⟩ | rfl) | rfl) | rfl) | rfl) | rfl
  · have hlow : 48 ≤ c.toNat := hdigit
    omega
  all_goals decide

-- The values in a container are parts of its lists of items or members, and so the three texts are
-- gone through together, each in the order of its printer.
mutual

/-- **The compact text of a value holds no control characters.** -/
theorem noControls_compactChars : ∀ v : Json, NoControls (compactChars v)
  | .null => by decide
  | .bool true => by decide
  | .bool false => by decide
  | .number n => noControls_render n
  | .string s => noControls_quoteChars s.toList
  | .array vs => .cons (by decide) ((noControls_compactItems vs).append (by decide))
  | .object ms => .cons (by decide) ((noControls_compactMembers ms).append (by decide))

theorem noControls_compactItems : ∀ vs : List Json, NoControls (compactItems vs)
  | [] => nofun
  | [v] => noControls_compactChars v
  | v :: w :: vs =>
    (noControls_compactChars v).append (.cons (by decide) (noControls_compactItems (w :: vs)))

theorem noControls_compactMembers : ∀ ms : List (String × Json), NoControls (compactMembers ms)
  | [] => nofun
  | [(k, v)] =>
    (noControls_quoteChars k.toList).append (.cons (by decide) (noControls_compactChars v))
  | (k, v) :: m :: ms =>
    ((noControls_quoteChars k.toList).append (.cons (by decide) (noControls_compactChars v))).append
      (.cons (by decide) (noControls_compactMembers (m :: ms)))

end

end Tidemark.Json
