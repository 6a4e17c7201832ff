import Mathlib.Data.String.Basic
import Tidemark.Proofs.Engine.Table

/-!
# An engine that compares texts

If cells are in a total order, steps can be evaluated by stable sorting (`evaluate`).  Texts are in
such an order, code point by code point (`Collation.byText`), and rows with different texts make a
plain table (`plain_byText`).  A list of rows in ascending order is a table that grows row by row
(`Table.beginning`).
-/

namespace Tidemark.Engine

/-! ### Evaluation -/

/-- Cells are in a total order. -/
structure Collation.Ordered (o : Collation) : Prop where
  trans : ∀ a b c, o.le a b = true → o.le b c = true → o.le a c = true
  total : ∀ a b, (o.le a b || o.le b a) = true

/-- The rows after a step, where sorting is stable. -/
def evaluateStep (o : Collation) (rows : List Row) : Query.Step → List Row
  | .whereGreater column value =>
    rows.filter fun r => (r.get? column).any fun cell => o.exceeds cell value
  | .orderBy .ascending column => rows.mergeSort fun a b => o.le (a.cell column) (b.cell column)
  | .orderBy .descending column => rows.mergeSort fun a b => o.le (b.cell column) (a.cell column)
  | .limit count => rows.take count.toNat
  | .selectAs field column => rows.map fun r => ⟨[(field, r.cell column)]⟩

/-- The rows after some steps. -/
def evaluate (o : Collation) (ss : List Query.Step) (rows : List Row) : List Row :=
  ss.foldl (evaluateStep o) rows

/-- A step yields what it is evaluated to. -/
lemma stepYields_evaluateStep {o : Collation} (ho : o.Ordered) (rows : List Row)
    (s : Query.Step) : StepYields o s rows (evaluateStep o rows s) := by
  cases s with
  | whereGreater column value => rfl
  | orderBy direction column =>
    cases direction with
    | ascending =>
      refine ⟨List.mergeSort_perm _ _, List.pairwise_mergeSort ?_ ?_ rows⟩
      · exact fun a b c => ho.trans _ _ _
      · exact fun a b => ho.total _ _
    | descending =>
      refine ⟨List.mergeSort_perm _ _, List.pairwise_mergeSort ?_ ?_ rows⟩
      · exact fun a b c hba hcb => ho.trans _ _ _ hcb hba
      · exact fun a b => ho.total _ _
  | limit count => rfl
  | selectAs field column => rfl

/-- Steps yield what they are evaluated to. -/
theorem evaluates_evaluate {o : Collation} (ho : o.Ordered) (ss : List Query.Step)
    (rows : List Row) : Evaluates o ss rows (evaluate o ss rows) := by
  induction ss generalizing rows with
  | nil => rfl
  | cons s ss ih => exact ⟨evaluateStep o rows s, stepYields_evaluateStep ho rows s, ih _⟩

/-! ### Texts -/

/-- Cells compared by their texts; a cell without a text counts as the empty text. -/
def Collation.byText : Collation where
  le a b := decide ((scalarText a).getD "" ≤ (scalarText b).getD "")
  exceeds a v := decide (v < (scalarText a).getD "")

/-- Texts are in a total order. -/
lemma Collation.ordered_byText : byText.Ordered where
  trans a b c hab hbc := by
    have hle : (scalarText a).getD "" ≤ (scalarText b).getD "" := of_decide_eq_true hab
    exact decide_eq_true (hle.trans (of_decide_eq_true hbc))
  total a b := by
    rw [Bool.or_eq_true]
    rcases le_total ((scalarText a).getD "") ((scalarText b).getD "") with hab | hba
    · exact Or.inl (decide_eq_true hab)
    · exact Or.inr (decide_eq_true hba)

/-- Rows are compared by the texts of their cells. -/
lemma atMost_byText {column v w : String} {a b : Row} (ha : a.text? column = some v)
    (hb : b.text? column = some w) : Collation.byText.AtMost column a b ↔ v ≤ w := by
  simp only [Collation.AtMost, Collation.byText, Row.scalarText_cell ha, Row.scalarText_cell hb,
    Option.getD_some, decide_eq_true_iff]

/-- A row is below another if its text is less. -/
lemma below_byText {column v w : String} {a b : Row} (ha : a.text? column = some v)
    (hb : b.text? column = some w) : Collation.byText.Below column a b ↔ v < w := by
  rw [Collation.Below, atMost_byText ha hb, atMost_byText hb ha, lt_iff_le_not_ge]

/-- Rows with texts are ranked by these. -/
lemma ranked_byText {column : String} {rows : List Row}
    (htext : ∀ r ∈ rows, ∃ v, r.text? column = some v) : Ranked .byText column rows where
  text := htext
  total a _ b _ := Bool.or_eq_true_iff.1 (Collation.ordered_byText.total _ _)
  trans a _ b _ c _ := Collation.ordered_byText.trans _ _ _
  exceeds a ha b hb v hv := by
    obtain ⟨w, hw⟩ := htext a ha
    rw [atMost_byText hw hv, not_le]
    simp only [Collation.byText, Row.scalarText_cell hw, Option.getD_some, decide_eq_true_iff]

/-- Rows with different texts that a literal can hold make a plain table. -/
theorem plain_byText {column : String} {rows : List Row}
    (htext : ∀ r ∈ rows, ∃ v, r.text? column = some v ∧ Query.sanitize v = v)
    (hdistinct : rows.Pairwise fun a b => a.text? column ≠ b.text? column) :
    Plain .byText column rows := by
  have hranked : Ranked .byText column rows := by
    refine ranked_byText fun r hr => ?_
    obtain ⟨v, hv, -⟩ := htext r hr
    exact ⟨v, hv⟩
  refine ⟨htext, hranked.total, hranked.trans, ?_, hranked.exceeds⟩
  refine hdistinct.imp_of_mem ?_
  rintro a b ha hb hne ⟨hab, hba⟩
  obtain ⟨v, hv, -⟩ := htext a ha
  obtain ⟨w, hw, -⟩ := htext b hb
  rw [atMost_byText hv hw] at hab
  rw [atMost_byText hw hv] at hba
  exact hne (by rw [hv, hw, le_antisymm hab hba])

/-! ### Tables that grow row by row -/

/-- Fewer rows of a plain table are a plain table. -/
lemma Plain.sublist {o : Collation} {column : String} {rows rows' : List Row}
    (h : Plain o column rows) (hsub : rows'.Sublist rows) : Plain o column rows' where
  text r hr := h.text r (hsub.subset hr)
  total a ha b hb := h.total a (hsub.subset ha) b (hsub.subset hb)
  trans a ha b hb c hc := h.trans a (hsub.subset ha) b (hsub.subset hb) c (hsub.subset hc)
  distinct := h.distinct.sublist hsub
  exceeds a ha b hb := h.exceeds a (hsub.subset ha) b (hsub.subset hb)

namespace Table

variable {o : Collation} {column : String} {rows : List Row}

/-- The first rows of a list as a table; its versions are the beginnings of the list. -/
def beginning (hplain : Plain o column rows) (n : UInt64) : Table o column where
  version point := some (rows.take point.value.toNat)
  newest := ⟨n⟩
  rows := rows.take n.toNat
  version_newest := rfl
  plain := hplain.sublist (List.take_sublist n.toNat rows)

/-- Longer beginnings of an ascending list are later states of the table. -/
lemma grows_beginning (hplain : Plain o column rows) (hascending : rows.Pairwise (o.Below column))
    {m n : UInt64} (hmn : m ≤ n) : (beginning hplain m).Grows (beginning hplain n) := by
  have hle : m.toNat ≤ n.toNat := UInt64.le_iff_toNat_le.1 hmn
  have hsplit : rows.take m.toNat ++ (rows.take n.toNat).drop m.toNat = rows.take n.toNat := by
    have htake : rows.take m.toNat = (rows.take n.toNat).take m.toNat := by
      rw [List.take_take, Nat.min_eq_left hle]
    rw [htake, List.take_append_drop]
  refine ⟨fun _ _ h => h, (rows.take n.toNat).drop m.toNat, ?_, ?_⟩
  · change (rows.take n.toNat).Perm (rows.take m.toNat ++ (rows.take n.toNat).drop m.toNat)
    rw [hsplit]
  · have hsorted : (rows.take n.toNat).Pairwise (o.Below column) :=
      hascending.sublist (List.take_sublist n.toNat rows)
    rw [← hsplit] at hsorted
    exact (List.pairwise_append.1 hsorted).2.2

end Table

end Tidemark.Engine
