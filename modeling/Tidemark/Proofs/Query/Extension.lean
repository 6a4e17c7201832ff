import Mathlib.Tactic.Common
import Tidemark.Query.Rewriter

/-!
# Plans that extend plans

Steps can be appended to a plan as they are appended to a base query: text is joined at the end,
and a tree takes them at the end of its array (`Plan.extend`).  A base query with steps, extended by
more steps, is the base query with all of them (`plan_append`); so the max-value plan of a job is
its row plan, extended (`maxPlan_rowPlan`).
-/

namespace Tidemark

/-- Two changes of one member, one after the other. -/
lemma Members.modify_modify {α : Type} (k : String) (f g : α → α) (ms : List (String × α)) :
    modify k f (modify k g ms) = modify k (f ∘ g) ms := by
  induction ms with
  | nil => rfl
  | cons m ms ih =>
    obtain ⟨l, w⟩ := m
    by_cases h : k = l
    · simp [modify, h]
    · simp [modify, h, ih]

namespace Query

/-- A plan with steps appended. -/
def Plan.extend : Plan → List Step → Plan
  | .text source, steps => .text (source ++ String.join (steps.map Step.text))
  | .tree root, steps => .tree (Shape.append root (steps.map Step.tree))

namespace Shape

lemma modifyMember_modifyMember (k : String) (f g : Json → Json) (v : Json) :
    modifyMember k f (modifyMember k g v) = modifyMember k (f ∘ g) v := by
  cases v with
  | object members => simp only [modifyMember, Members.modify_modify]
  | _ => rfl

lemma appendItems_appendItems (xs ys : List Json) :
    appendItems ys ∘ appendItems xs = appendItems (xs ++ ys) := by
  funext v
  cases v with
  | array vs => simp only [Function.comp, appendItems, List.append_assoc]
  | _ => rfl

/-- Steps that are appended after steps come after them. -/
lemma append_append (root : Json) (xs ys : List Json) :
    append (append root xs) ys = append root (xs ++ ys) := by
  have hmember : modifyMember argsKey (appendItems ys) ∘ modifyMember argsKey (appendItems xs)
      = modifyMember argsKey (appendItems (xs ++ ys)) := by
    funext v
    rw [Function.comp_apply, modifyMember_modifyMember, appendItems_appendItems]
  rw [append, append, modifyMember_modifyMember, hmember]
  rfl

/-- A value of the right shape has the array that holds the steps. -/
lemma exists_of_check {root : Json} (h : check root = .ok ()) :
    ∃ members optic steps, root = .object members ∧
      Members.find? opticKey members = some (.object optic) ∧
      Members.find? argsKey optic = some (.array steps) := by
  unfold check at h
  split at h
  · next members =>
    split at h
    · next optic hoptic =>
      split at h
      · next steps hsteps => exact ⟨members, optic, steps, rfl, hoptic, hsteps⟩
      · cases h
    · cases h
  · cases h

/-- Steps that are appended to a plan tree come after its own. -/
lemma steps?_append {root : Json} (h : check root = .ok ()) (items : List Json) :
    ∃ own, steps? root = some own ∧ steps? (append root items) = some (own ++ items) := by
  obtain ⟨members, optic, own, rfl, hoptic, hown⟩ := exists_of_check h
  refine ⟨own, ?_, ?_⟩
  · simp only [steps?, Json.member?, hoptic, Option.bind_some, hown]
  · simp only [steps?, append, modifyMember, Json.member?, Members.find?_modify_self, hoptic,
      Option.map_some, Option.bind_some, hown, appendItems]

end Shape

/-- A base query with steps, extended by more steps, is the base query with all of them. -/
theorem Base.plan_append (base : Base) (xs ys : List Step) :
    base.plan (xs ++ ys) = (base.plan xs).extend ys := by
  cases base with
  | text source =>
    have hjoin : String.join ((xs ++ ys).map Step.text)
        = String.join (xs.map Step.text) ++ String.join (ys.map Step.text) := by
      rw [List.map_append, String.join_append]
    rw [Base.plan, hjoin, ← String.append_assoc]
    rfl
  | tree root shape =>
    rw [Base.plan, List.map_append, ← Shape.append_append]
    rfl

/-- The max-value plan is the row plan built last, sorted the other way, cut off after one row and
projected to the greatest value. -/
theorem Rewriter.maxPlan_rowPlan (r : Rewriter) {k : Constraint} (hk : r.constraint = some k)
    (previous : Option String) :
    (r.rowPlan previous).2.maxPlan = some ((r.rowPlan previous).1.extend (maxSteps k)) := by
  have hmax : (r.rowPlan previous).2.maxPlan
      = some (r.base.plan (rowSteps r.constraint previous ++ maxSteps k)) := by
    simp only [maxPlan, constraint_rowPlan, current_rowPlan, base_rowPlan, hk, Option.map_some]
  rw [hmax, Base.plan_append]
  rfl

end Query

end Tidemark
