import Mathlib.Data.List.Permutation
import Tidemark.Engine.Basic
import Tidemark.Query.Rewriter

/-!
# How an engine evaluates a plan

An engine evaluates the steps of a plan over the rows of a table, one step after the other
(`Evaluates`).  The rows are ordered by the cells of one column, and a row exceeds a literal if the
engine finds its cell greater (`Collation`).  If the cells are in order and compare with the texts
of cells as they do with the cells, the table can be ranked (`Ranked`).  The steps of a page sort
the rows above a value and cut them off at the limit (`evaluates_pageSteps_iff`).
-/

namespace Tidemark.Engine

/-! ### The order of rows -/

/-- How an engine compares cells with each other, and cells with the text of a literal. -/
structure Collation where
  le : Json → Json → Bool
  exceeds : Json → String → Bool

/-- The cell of a row in a column, null if it has none. -/
def Row.cell (r : Row) (column : String) : Json :=
  (r.get? column).getD .null

/-- The text of the cell of a row. -/
lemma Row.scalarText_cell {r : Row} {column v : String} (hv : r.text? column = some v) :
    scalarText (r.cell column) = some v := by
  obtain ⟨cell, hcell, htext⟩ := Option.bind_eq_some_iff.1 hv
  rw [Row.cell, hcell, Option.getD_some, htext]

namespace Collation

variable (o : Collation) (column : String)

/-- The cell of one row is at most that of another. -/
def AtMost (a b : Row) : Prop :=
  o.le (a.cell column) (b.cell column) = true

/-- The cell of one row is less than that of another. -/
def Below (a b : Row) : Prop :=
  o.AtMost column a b ∧ ¬ o.AtMost column b a

/-- Two rows have the same cell, as far as the engine can tell. -/
def Tied (a b : Row) : Prop :=
  o.AtMost column a b ∧ o.AtMost column b a

end Collation

/-- The rows of a table that can be ranked: every row has a text in the column, the cells are in
order, and a cell exceeds the text of another exactly if it is greater.  Several rows may have the
same cell. -/
structure Ranked (o : Collation) (column : String) (rows : List Row) : Prop where
  text : ∀ r ∈ rows, ∃ v, r.text? column = some v
  total : ∀ a ∈ rows, ∀ b ∈ rows, o.AtMost column a b ∨ o.AtMost column b a
  trans : ∀ a ∈ rows, ∀ b ∈ rows, ∀ c ∈ rows,
    o.AtMost column a b → o.AtMost column b c → o.AtMost column a c
  exceeds : ∀ a ∈ rows, ∀ b ∈ rows, ∀ v, b.text? column = some v →
    (o.exceeds (a.cell column) v = true ↔ ¬ o.AtMost column a b)

namespace Ranked

variable {o : Collation} {column : String} {rows : List Row}

/-- A row of a ranked table has a cell. -/
lemma get?_eq (h : Ranked o column rows) {r : Row} (hr : r ∈ rows) :
    r.get? column = some (r.cell column) := by
  obtain ⟨v, hv⟩ := h.text r hr
  cases hget : r.get? column with
  | none =>
    rw [Row.text?, hget] at hv
    cases hv
  | some cell => rw [Row.cell, hget, Option.getD_some]

/-- A row is at most itself. -/
lemma refl (h : Ranked o column rows) {a : Row} (ha : a ∈ rows) : o.AtMost column a a :=
  (h.total a ha a ha).elim id id

end Ranked

/-! ### The steps of a plan -/

/-- What a step makes of rows.  Rows with the same cell may be sorted in either order. -/
def StepYields (o : Collation) : Query.Step → List Row → List Row → Prop
  | .whereGreater column value, rows, out =>
    out = rows.filter fun r => (r.get? column).any fun cell => o.exceeds cell value
  | .orderBy .ascending column, rows, out => out.Perm rows ∧ out.Pairwise (o.AtMost column)
  | .orderBy .descending column, rows, out =>
    out.Perm rows ∧ out.Pairwise fun a b => o.AtMost column b a
  | .limit count, rows, out => out = rows.take count.toNat
  | .selectAs field column, rows, out => out = rows.map fun r => ⟨[(field, r.cell column)]⟩

/-- What steps make of rows, one after the other. -/
def Evaluates (o : Collation) : List Query.Step → List Row → List Row → Prop
  | [], rows, out => out = rows
  | s :: ss, rows, out => ∃ mid, StepYields o s rows mid ∧ Evaluates o ss mid out

/-- Steps after steps evaluate what these give. -/
lemma evaluates_append {o : Collation} {ss ss' : List Query.Step} {rows out : List Row} :
    Evaluates o (ss ++ ss') rows out ↔
      ∃ mid, Evaluates o ss rows mid ∧ Evaluates o ss' mid out := by
  induction ss generalizing rows with
  | nil => simp [Evaluates]
  | cons s ss ih =>
    simp only [List.cons_append, Evaluates, ih]
    constructor
    · rintro ⟨x, hx, y, hy, hout⟩
      exact ⟨y, ⟨x, hx, hy⟩, hout⟩
    · rintro ⟨y, ⟨x, hx, hy⟩, hout⟩
      exact ⟨x, hx, y, hy, hout⟩

/-- The steps of a page above a value: filter, sort, and cut off. -/
def pageSteps (column : String) (previous : Option String) (limit : Option UInt64) :
    List Query.Step :=
  (previous.map (Query.Step.whereGreater column)).toList ++ [.orderBy .ascending column]
    ++ (limit.map Query.Step.limit).toList

/-- The steps that take the greatest value of a page. -/
def greatestSteps (field column : String) : List Query.Step :=
  [.orderBy .descending column, .limit 1, .selectAs field column]

/-- The first rows, up to a limit. -/
def cutOff (limit : Option UInt64) (rows : List Row) : List Row :=
  match limit with
  | none => rows
  | some n => rows.take n.toNat

/-- The rows above a value; without a value all rows. -/
def above (o : Collation) (column : String) (previous : Option String) (rows : List Row) :
    List Row :=
  match previous with
  | none => rows
  | some v => rows.filter fun r => (r.get? column).any fun cell => o.exceeds cell v

/-- The steps of a page sort the rows above a value and cut them off. -/
lemma evaluates_pageSteps_iff {o : Collation} {column : String} {previous : Option String}
    {limit : Option UInt64} {rows page : List Row} :
    Evaluates o (pageSteps column previous limit) rows page ↔
      ∃ sorted : List Row, sorted.Perm (above o column previous rows) ∧
        sorted.Pairwise (o.AtMost column) ∧ page = cutOff limit sorted := by
  have hfilter : ∀ mid, Evaluates o (previous.map (Query.Step.whereGreater column)).toList rows mid
      ↔ mid = above o column previous rows := by
    intro mid
    cases previous with
    | none => exact Iff.rfl
    | some v => simp [Evaluates, StepYields, above]
  have hcut : ∀ sorted, Evaluates o (limit.map Query.Step.limit).toList sorted page
      ↔ page = cutOff limit sorted := by
    intro sorted
    cases limit with
    | none => exact Iff.rfl
    | some n => simp [Evaluates, StepYields, cutOff]
  rw [pageSteps, List.append_assoc, evaluates_append]
  constructor
  · rintro ⟨mid, hmid, sorted, ⟨hperm, hsorted⟩, hpage⟩
    rw [(hfilter mid).1 hmid] at hperm
    exact ⟨sorted, hperm, hsorted, (hcut sorted).1 hpage⟩
  · rintro ⟨sorted, hperm, hsorted, hpage⟩
    exact ⟨_, (hfilter _).2 rfl, sorted, ⟨hperm, hsorted⟩, (hcut sorted).2 hpage⟩

/-- What is cut off comes after what is kept, and something is cut off only at the limit. -/
lemma exists_append_cutOff (limit : Option UInt64) (rows : List Row) :
    ∃ later, rows = cutOff limit rows ++ later ∧
      (later ≠ [] → ∃ n, limit = some n ∧ n.toNat = (cutOff limit rows).length) := by
  cases limit with
  | none => exact ⟨[], (List.append_nil rows).symm, by simp⟩
  | some n =>
    refine ⟨rows.drop n.toNat, (List.take_append_drop n.toNat rows).symm, ?_⟩
    intro hne
    refine ⟨n, rfl, ?_⟩
    rw [Ne, List.drop_eq_nil_iff, not_le] at hne
    rw [cutOff, List.length_take, Nat.min_eq_left (Nat.le_of_lt hne)]

/-- Nothing is kept only if there is nothing, unless nothing may be kept at all. -/
lemma eq_nil_of_cutOff {limit : Option UInt64} (hlimit : limit ≠ some 0) {rows : List Row}
    (h : cutOff limit rows = []) : rows = [] := by
  obtain ⟨later, hrows, hcut⟩ := exists_append_cutOff limit rows
  rw [h, List.nil_append] at hrows
  rw [hrows]
  by_contra hne
  obtain ⟨n, rfl, hn⟩ := hcut hne
  rw [h, List.length_nil] at hn
  exact hlimit (congrArg some (UInt64.toNat_inj.1 hn))

end Tidemark.Engine
