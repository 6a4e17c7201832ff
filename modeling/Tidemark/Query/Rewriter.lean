import Tidemark.Query.Constraint
import Tidemark.Query.Plan

/-!
# Rewriting the base query of a job

A rewriter turns the base query into the two plans of a cycle.  The row plan keeps the rows above
the previous value, sorts them by the constraint column and cuts them off at the row limit; the
max-value plan takes the greatest value of that very page.  Each row plan starts from the base
query anew, so steps never accumulate.
-/

namespace Tidemark.Query

/-- The base query of a job with its constraint, and the steps of the last row plan. -/
structure Rewriter where
  base : Base
  constraint : Option Constraint
  current : List Step

namespace Rewriter

/-- The name under which a max-value plan returns the greatest value. -/
def maxField : String := "constraint"

/-- A rewriter that has built no plan. -/
def new (base : Base) (constraint : Option Constraint) : Rewriter :=
  ⟨base, constraint, []⟩

/-- Whether the job has a constraint. -/
def isConstrained (r : Rewriter) : Bool :=
  r.constraint.isSome

/-- The steps of a row plan after a previous value. -/
def rowSteps (constraint : Option Constraint) (previous : Option String) : List Step :=
  match constraint with
  | none => []
  | some c =>
    (previous.map (Step.whereGreater c.column)).toList
      ++ [.orderBy .ascending c.column]
      ++ (c.rowLimit.map Step.limit).toList

/-- The steps that take the greatest value of a page. -/
def maxSteps (c : Constraint) : List Step :=
  [.orderBy .descending c.column, .limit 1, .selectAs maxField c.column]

/-- The row plan after a previous value, and the rewriter that remembers its steps. -/
def rowPlan (r : Rewriter) (previous : Option String) : Plan × Rewriter :=
  let steps := rowSteps r.constraint previous
  (r.base.plan steps, { r with current := steps })

/-- The max-value plan of the last row plan; none without a constraint. -/
def maxPlan (r : Rewriter) : Option Plan :=
  r.constraint.map fun c => r.base.plan (r.current ++ maxSteps c)

/-- The query text of the last row plan. -/
def currentText (r : Rewriter) : String :=
  (r.base.plan r.current).queryText

/-- The step texts of the last row plan, for a base query given as text. -/
def currentStepTexts (r : Rewriter) : Option (List String) :=
  match r.base with
  | .text _ => some (r.current.map Step.text)
  | .tree _ _ => none

@[simp] theorem base_rowPlan (r : Rewriter) (previous : Option String) :
    (r.rowPlan previous).2.base = r.base :=
  rfl

@[simp] theorem constraint_rowPlan (r : Rewriter) (previous : Option String) :
    (r.rowPlan previous).2.constraint = r.constraint :=
  rfl

@[simp] theorem current_rowPlan (r : Rewriter) (previous : Option String) :
    (r.rowPlan previous).2.current = rowSteps r.constraint previous :=
  rfl

theorem maxPlan_eq_none_iff (r : Rewriter) : r.maxPlan = none ↔ r.isConstrained = false := by
  simp [maxPlan, isConstrained]

end Rewriter

end Tidemark.Query
