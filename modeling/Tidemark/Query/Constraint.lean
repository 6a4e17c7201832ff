import Tidemark.Text.Blank

/-!
# The constraint of a job

A constraint names the column whose greatest value so far is the watermark, and limits the number
of rows that one cycle reads.
-/

namespace Tidemark.Query

/-- The constraint of a job: a column name that is not blank and a positive row limit, if any. -/
structure Constraint where
  column : String
  rowLimit : Option UInt64
  column_not_blank : Text.isBlankText column = false
  limit_pos : rowLimit ≠ some 0
  deriving DecidableEq

namespace Constraint

/-- A limit of zero stands for no limit. -/
def positiveLimit (limit : Option UInt64) : Option UInt64 :=
  limit.filter (· ≠ 0)

theorem positiveLimit_ne_some_zero (limit : Option UInt64) : positiveLimit limit ≠ some 0 := by
  intro h
  have := (Option.filter_eq_some_iff.1 h).2
  simp at this

/-- The constraint on a column; a blank name gives none. -/
def ofColumn? (column : String) (limit : Option UInt64) : Option Constraint :=
  if h : Text.isBlankText column = false then
    some ⟨column, positiveLimit limit, h, positiveLimit_ne_some_zero limit⟩
  else none

theorem ofColumn?_eq_none_iff (column : String) (limit : Option UInt64) :
    ofColumn? column limit = none ↔ Text.isBlankText column = true := by
  simp [ofColumn?]

end Constraint

end Tidemark.Query
