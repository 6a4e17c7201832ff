import Tidemark.Proofs.Query.Agreement

/-!
# The shape of plan trees

A tree is taken as base query if steps can be appended to it (`Shape.Accepts`): it is an object,
its `$optic` is an object, and the `args` of that is an array of objects.  Of any other value the
first level is reported at which it is something else (`Shape.FirstFault`).  Appending does nothing
where a level is missing; on a tree that is accepted it adds the steps and nothing else
(`Shape.Extends`), and the tree that comes of it is accepted again.  So no step of an answer is lost
in any history of requests (`accepted_trees_take_every_step`).
-/

namespace Tidemark.Query

/-- An element that is found has a place, and what stands before it is passed over. -/
lemma exists_of_findIdx?_eq_some {α : Type} {p : α → Bool} {xs : List α} {i : ℕ}
    (h : xs.findIdx? p = some i) :
    ∃ front x rest, xs = front ++ x :: rest ∧ front.length = i ∧ p x = true ∧
      ∀ y ∈ front, p y = false := by
  induction xs generalizing i with
  | nil => cases h
  | cons x xs ih =>
    rw [List.findIdx?_cons] at h
    by_cases hx : p x = true
    · rw [if_pos hx] at h
      obtain rfl := Option.some.inj h
      exact ⟨[], x, xs, rfl, rfl, hx, by simp⟩
    · rw [if_neg hx] at h
      obtain ⟨j, hj, rfl⟩ := Option.map_eq_some_iff.1 h
      obtain ⟨front, y, rest, rfl, hlength, hy, hfront⟩ := ih hj
      refine ⟨x :: front, y, rest, rfl, by rw [List.length_cons, hlength], hy, ?_⟩
      exact List.forall_mem_cons.2 ⟨Bool.eq_false_iff.2 hx, hfront⟩

/-- An element whose predecessors are passed over is found at its place. -/
lemma findIdx?_append_cons {α : Type} {p : α → Bool} {front : List α}
    (hfront : ∀ y ∈ front, p y = false) {x : α} (hx : p x = true) (rest : List α) :
    (front ++ x :: rest).findIdx? p = some front.length := by
  induction front with
  | nil => simp [List.findIdx?_cons, hx]
  | cons y front ih =>
    obtain ⟨hy, hfront⟩ := List.forall_mem_cons.1 hfront
    simp [List.findIdx?_cons, hy, ih hfront]

namespace Shape

/-- A value that steps can be appended to. -/
inductive Accepts : Json → Prop
  | intro {members optic : List (String × Json)} {steps : List Json}
    (hoptic : Members.find? "$optic" members = some (.object optic))
    (hargs : Members.find? "args" optic = some (.array steps))
    (hsteps : ∀ s ∈ steps, ∃ ms, s = .object ms) : Accepts (.object members)

/-- The first level at which a value is of another shape, and the text by which it is reported. -/
inductive FirstFault : Json → ShapeFault → String → Prop
  | notAnObject {v : Json} (h : ∀ members, v ≠ .object members) :
    FirstFault v .notAnObject "invalid serialized plan: plan must be a JSON object"
  | noOptic {members : List (String × Json)}
    (h : ∀ optic, Members.find? "$optic" members ≠ some (.object optic)) :
    FirstFault (.object members) .noOptic
      "invalid serialized plan: missing '$optic' object at the root"
  | noArgs {members optic : List (String × Json)}
    (hoptic : Members.find? "$optic" members = some (.object optic))
    (h : ∀ steps, Members.find? "args" optic ≠ some (.array steps)) :
    FirstFault (.object members) .noArgs
      "invalid serialized plan: '$optic' has no 'args' array"
  | badStep {members optic : List (String × Json)} {front rest : List Json} {s : Json}
    (hoptic : Members.find? "$optic" members = some (.object optic))
    (hargs : Members.find? "args" optic = some (.array (front ++ s :: rest)))
    (hfront : ∀ t ∈ front, ∃ ms, t = .object ms) (hs : ∀ ms, s ≠ .object ms) :
    FirstFault (.object members) (.badStep front.length)
      ("invalid serialized plan: " ++
        ("step " ++ toString front.length ++ " of '$optic.args' is not an object"))

/-- A tree with items at the end of its array of steps, and everything else as it was. -/
structure Extends (root : Json) (items : List Json) (root' : Json) : Prop where
  /-- The members of the tree besides the pipeline are the same. -/
  besides : ∀ k, k ≠ "$optic" → root'.member? k = root.member? k
  /-- The members of the pipeline besides the steps are the same, and the items stand after the
  steps. -/
  within : ∃ (optic optic' : Json) (own : List Json),
    root.member? "$optic" = some optic ∧ root'.member? "$optic" = some optic' ∧
      optic.member? "args" = some (.array own) ∧
      optic'.member? "args" = some (.array (own ++ items)) ∧
      ∀ k, k ≠ "args" → optic'.member? k = optic.member? k

/-! ### What is accepted -/

lemma not_isObject_eq_true_iff {v : Json} : (!v.isObject) = true ↔ ∀ ms, v ≠ .object ms := by
  cases v <;> simp [Json.isObject]

lemma not_isObject_eq_false_iff {v : Json} : (!v.isObject) = false ↔ ∃ ms, v = .object ms := by
  cases v <;> simp [Json.isObject]

/-- Of a value that is refused the first fault is reported. -/
lemma firstFault_of_check {v : Json} {f : ShapeFault} (h : check v = .error f) :
    FirstFault v f f.message := by
  unfold check at h
  split at h
  · next members =>
    split at h
    · next optic hoptic =>
      split at h
      · next steps hargs =>
        split at h
        · next i hi =>
          obtain rfl := Except.error.inj h
          obtain ⟨front, s, rest, rfl, rfl, hs, hfront⟩ := exists_of_findIdx?_eq_some hi
          exact .badStep hoptic hargs (fun t ht => not_isObject_eq_false_iff.1 (hfront t ht))
            (not_isObject_eq_true_iff.1 hs)
        · cases h
      · next hargs =>
        obtain rfl := Except.error.inj h
        exact .noArgs hoptic hargs
    · next hoptic =>
      obtain rfl := Except.error.inj h
      exact .noOptic hoptic
  · next hroot =>
    obtain rfl := Except.error.inj h
    exact .notAnObject hroot

/-- A value with a fault is refused because of it. -/
lemma FirstFault.check_eq {v : Json} {f : ShapeFault} {text : String} (h : FirstFault v f text) :
    check v = .error f := by
  cases h with
  | notAnObject h =>
    cases v with
    | object members => exact absurd rfl (h members)
    | _ => rfl
  | @noOptic members h =>
    simp only [check, opticKey]
  | @noArgs members optic hoptic h =>
    simp only [check, opticKey, argsKey, hoptic]
  | badStep hoptic hargs hfront hs =>
    have hfound := findIdx?_append_cons (fun t ht => not_isObject_eq_false_iff.2 (hfront t ht))
      (not_isObject_eq_true_iff.2 hs)
    simp only [check, opticKey, argsKey, hoptic, hargs, hfound]

/-- What is accepted has the shape that appending needs. -/
lemma check_eq_ok_iff {v : Json} : check v = .ok () ↔ Accepts v := by
  constructor
  · intro h
    obtain ⟨members, optic, steps, rfl, hoptic, hargs⟩ := exists_of_check h
    simp only [check, hoptic, hargs] at h
    split at h
    · cases h
    · next hnone =>
      rw [List.findIdx?_eq_none_iff] at hnone
      exact .intro hoptic hargs fun s hs => not_isObject_eq_false_iff.1 (hnone s hs)
  · rintro ⟨hoptic, hargs, hsteps⟩
    have hnone := List.findIdx?_eq_none_iff.2 fun s hs =>
      not_isObject_eq_false_iff.2 (hsteps s hs)
    simp only [check, opticKey, argsKey, hoptic, hargs, hnone]

/-! ### What appending does -/

/-- Objects are appended to a tree that is accepted, and nothing else is changed; the tree that
comes of it is accepted again. -/
lemma Accepts.append {root : Json} (h : Accepts root) {items : List Json}
    (hitems : ∀ s ∈ items, ∃ ms, s = .object ms) :
    Extends root items (append root items) ∧ Accepts (append root items) := by
  obtain @⟨members, optic, own, hoptic, hargs, hsteps⟩ := h
  let optic' := Members.modify "args" (appendItems items) optic
  have hoptic' : Members.find? "$optic"
      (Members.modify "$optic" (modifyMember "args" (appendItems items)) members)
        = some (.object optic') := by
    rw [Members.find?_modify_self, hoptic]
    rfl
  have hargs' : Members.find? "args" optic' = some (.array (own ++ items)) := by
    rw [Members.find?_modify_self, hargs]
    rfl
  refine ⟨⟨?_, .object optic, .object optic', own, hoptic, hoptic', hargs, hargs', ?_⟩, ?_⟩
  · intro k hk
    exact Members.find?_modify_of_ne hk _ members
  · intro k hk
    exact Members.find?_modify_of_ne hk _ optic
  · refine .intro hoptic' hargs' ?_
    intro s hs
    rcases List.mem_append.1 hs with hs | hs
    · exact hsteps s hs
    · exact hitems s hs

end Shape

/-- The images of steps are objects. -/
lemma Step.exists_object_of_mem_map {steps : List Step} {v : Json}
    (hv : v ∈ steps.map Step.tree) : ∃ ms, v = .object ms := by
  obtain ⟨s, -, rfl⟩ := List.mem_map.1 hv
  exact Shape.not_isObject_eq_false_iff.1 (by rw [s.isObject_tree]; rfl)

open Shape (Accepts FirstFault Extends)

/-! ### Base queries -/

namespace Base

/-- A tree that is taken as base query is accepted, and it is kept as it is. -/
lemma exists_ofTree_iff {v : Json} : (∃ base, ofTree v = .ok base) ↔ Accepts v := by
  rw [← Shape.check_eq_ok_iff]
  unfold ofTree
  split
  · next h => simp [h]
  · next f h => simp [h]

/-- A tree that is not taken has a fault. -/
lemma ofTree_eq_error_iff {v : Json} {f : ShapeFault} :
    ofTree v = .error f ↔ FirstFault v f f.message := by
  have hcheck : ofTree v = .error f ↔ Shape.check v = .error f := by
    unfold ofTree
    split
    · next h => simp [h]
    · next g h => simp [h]
  rw [hcheck]
  exact ⟨Shape.firstFault_of_check, FirstFault.check_eq⟩

end Base

/-! ### Histories of requests -/

/-- A constraint is the constraint on its column with its limit. -/
lemma Constraint.ofColumn?_column_rowLimit (k : Constraint) :
    ofColumn? k.column k.rowLimit = some k := by
  obtain ⟨column, rowLimit, hblank, hpos⟩ := k
  have hlimit : positiveLimit rowLimit = rowLimit := by
    cases rowLimit with
    | none => rfl
    | some n =>
      have hn : n ≠ 0 := fun hzero => hpos (congrArg some hzero)
      simp [positiveLimit, Option.filter, hn]
  simp only [ofColumn?, hblank, dif_pos, hlimit]

/-- The steps that an answer adds to the base query.  Without a constraint a row plan adds none, and
there is no other plan. -/
def addedSteps (constraint : Option Constraint) (history : List Request) (request : Request) :
    Option (List Step) :=
  match constraint, request with
  | some k, request => some (toldSteps k.column k.rowLimit history request)
  | none, .rowPlan _ => some []
  | none, .maxPlan => none

namespace Rewriter

/-- Every answer is the base query with the steps that are added, after every history. -/
lemma answer_after_eq (base : Base) (constraint : Option Constraint) (history : List Request)
    (request : Request) :
    ((new base constraint).after history).answer request
      = (addedSteps constraint history request).map base.plan := by
  cases constraint with
  | some k => exact answer_after k.ofColumn?_column_rowLimit base history request
  | none =>
    rw [after_eq]
    cases request <;> rfl

/-- A history does not change the base query. -/
lemma base_after (r : Rewriter) (history : List Request) : (r.after history).base = r.base := by
  rw [after_eq]

end Rewriter

/-- **Trees are accepted exactly if every step can be appended to them.**  A value is taken as base
query exactly if it has the shape that appending needs, and of any other value the first level is
reported that is of another shape, the least index where it is a step.  After any history of
requests, with any constraint or none, the base query is the tree that was taken, and each plan is
that tree with the steps at the end of its array, all of them and no others; everything else in it
is as it was, and it is accepted again. -/
theorem accepted_trees_take_every_step (v : Json) :
    ((∃ base, Base.ofTree v = .ok base) ↔ Accepts v) ∧
    (∀ f, Base.ofTree v = .error f ↔ FirstFault v f f.message) ∧
    ∀ base, Base.ofTree v = .ok base →
      ∀ (constraint : Option Constraint) (history : List Request),
        let r := (Rewriter.new base constraint).after history
        (∃ shape, r.base = .tree v shape) ∧
        ∀ request,
          (r.answer request = none ↔ addedSteps constraint history request = none) ∧
          ∀ plan, r.answer request = some plan →
            ∃ added root', addedSteps constraint history request = some added ∧
              plan = .tree root' ∧ Extends v (added.map Step.tree) root' ∧ Accepts root' ∧
              ∃ base', Base.ofTree root' = .ok base' := by
  refine ⟨Base.exists_ofTree_iff, fun f => Base.ofTree_eq_error_iff, ?_⟩
  intro base hbase constraint history r
  have haccepts : Accepts v := Base.exists_ofTree_iff.1 ⟨base, hbase⟩
  obtain ⟨shape, rfl⟩ := Base.exists_of_ofTree hbase
  refine ⟨⟨shape, Rewriter.base_after _ history⟩, fun request => ?_⟩
  rw [Rewriter.answer_after_eq]
  refine ⟨Option.map_eq_none_iff, fun plan hplan => ?_⟩
  obtain ⟨added, hadded, rfl⟩ := Option.map_eq_some_iff.1 hplan
  have hobjects : ∀ s ∈ added.map Step.tree, ∃ ms, s = .object ms :=
    fun s hs => Step.exists_object_of_mem_map hs
  obtain ⟨hextends, haccepts'⟩ := haccepts.append hobjects
  exact ⟨added, _, hadded, rfl, hextends, haccepts', Base.exists_ofTree_iff.2 haccepts'⟩

/-- A tree that has a member besides its pipeline, and a pipeline that has one besides its steps. -/
def annotated : Json :=
  .object [("$optic", .object [("args", .array [.object []]), ("fn", .string "operators")]),
    ("note", .string "nightly")]

/-- After a max-value plan that was asked for first, a row plan and another max-value plan, a row
plan adds its own three steps to the tree and keeps the rest of it. -/
theorem annotated_tree_takes_every_step :
    ∃ (base : Base) (k : Constraint) (root' : Json),
      Base.ofTree annotated = .ok base ∧
      let r := (Rewriter.new base (some k)).after [.maxPlan, .rowPlan none, .maxPlan]
      r.answer (.rowPlan (some "6")) = some (.tree root') ∧
        Extends annotated
          ([.whereGreater "ID" "6", .orderBy .ascending "ID", .limit 3].map Step.tree) root' ∧
        root'.member? "note" = some (.string "nightly") ∧ Accepts root' := by
  obtain ⟨-, -, hanswers⟩ := accepted_trees_take_every_step annotated
  let k : Constraint := ⟨"ID", some 3, by decide, by decide⟩
  obtain ⟨-, hanswer⟩ := hanswers (.tree annotated (by rfl)) rfl (some k)
    [.maxPlan, .rowPlan none, .maxPlan]
  obtain ⟨added, root', hadded, hplan, hextends, haccepts, -⟩ :=
    (hanswer (.rowPlan (some "6"))).2 _ rfl
  obtain rfl := Option.some.inj hadded
  exact ⟨_, k, root', rfl, congrArg some hplan, hextends, hextends.besides "note" (by decide),
    haccepts⟩

end Tidemark.Query
