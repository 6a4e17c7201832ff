import Tidemark.Proofs.Cycle.Run
import Tidemark.Proofs.Text.Trim

/-!
# Jobs without a constraint

A column name that is blank gives no constraint (`Query.Constraint.ofColumn?_eq_none_iff`), and then
a job has nothing to do with its watermark.  What it could be disturbed by is its past: the steps of
a plan that was built before, a value that its store still holds, a document at its location that
cannot be read.  A poll meets with none of these.  It asks the engine for the base query as it is
(`Query.Base.IsBare`), hands on what the engine answers (`handed`), and leaves its store alone
(`Unconstrained.step`); a run is therefore nothing but the engine asked again and again (`asks`).
-/

namespace Tidemark

namespace Query

namespace Shape

lemma appendItems_nil (v : Json) : appendItems [] v = v := by
  cases v <;> simp [appendItems]

lemma modifyMember_of_id (k : String) {f : Json → Json} (hf : ∀ v, f v = v) (v : Json) :
    modifyMember k f v = v := by
  cases v with
  | object members =>
    have hmembers : Members.modify k f members = members := by
      induction members with
      | nil => rfl
      | cons entry rest ih =>
        unfold Members.modify
        split <;> simp [hf, ih]
    rw [modifyMember, hmembers]
  | _ => rfl

/-- A tree to which no steps are appended stays what it is. -/
lemma append_nil (root : Json) : append root [] = root :=
  modifyMember_of_id opticKey (modifyMember_of_id argsKey appendItems_nil) root

end Shape

namespace Base

/-- The plan of a base query as it is: its text without the blanks at its end, or its tree. -/
inductive IsBare : Base → Plan → Prop
  | text {source front : String} (h : Text.EndTrimmed source front) :
    IsBare (.text source) (.text front)
  | tree (root : Json) (shape : Shape.check root = .ok ()) : IsBare (.tree root shape) (.tree root)

/-- Without steps nothing is added to a base query. -/
lemma isBare_plan_nil (b : Base) : b.IsBare (b.plan []) := by
  cases b with
  | text source =>
    rw [plan, List.map_nil, String.join_nil, String.append_empty]
    exact .text (Text.endTrimmed_trimmedEnd source)
  | tree root shape =>
    rw [plan, List.map_nil, Shape.append_nil]
    exact .tree root shape

end Base

end Query

namespace Cycle

/-- What an engine answers to a plan. -/
abbrev Answer := Except Engine.EngineError Engine.QueryResult

/-- The result of a poll that hands on the answer to a plan. -/
def handed (plan : Query.Plan) : Answer → Result
  | .error e => .error (.execution plan.queryText e)
  | .ok result => .ok result.rows

variable {σ : Type}

/-- The answers of an engine that is asked for one plan a number of times, at no point in time in
particular, and the world after them. -/
def asks (engine : Engine.QueryEngine (StateM σ)) (plan : Query.Plan) : ℕ → σ → List Answer × σ
  | 0, s => ([], s)
  | n + 1, s =>
    let r := (engine.execute plan none).run s
    let rs := asks engine plan n r.2
    (r.1 :: rs.1, rs.2)

/-! ### One poll -/

/-- What an unconstrained job with a base query does in one poll: it asks the engine once, hands on
the answer, and keeps its store. -/
structure Unconstrained (engine : Engine.QueryEngine (StateM σ)) (base : Query.Base)
    (store : Watermark.Store) (s : σ) (r : Traced.Run σ Outcome) : Prop where
  exchanges_eq : r.exchanges
    = [.execute (base.plan []) none ((engine.execute (base.plan []) none).run s).1]
  result_eq : r.value.1 = handed (base.plan []) ((engine.execute (base.plan []) none).run s).1
  world_eq : r.world = ((engine.execute (base.plan []) none).run s).2
  store_eq : r.value.2.store = store

namespace Unconstrained

variable {env : Surroundings (StateM σ)} {c : Cycle} {s : σ}

lemma isConstrained_eq (hk : c.rewriter.constraint = none) : c.rewriter.isConstrained = false := by
  rw [Query.Rewriter.isConstrained, hk]
  rfl

/-- A job without a constraint goes from its base query to the engine at once. -/
lemma retrieval_eq (env : Surroundings (StateM σ)) (hk : c.rewriter.constraint = none) (s : σ) :
    c.retrieval env s = ⟨(.ok none, c.underway c.store), s, []⟩ := by
  have h := retrieved_retrieval env c s
  have hconstrained := isConstrained_eq hk
  generalize c.retrieval env s = r at h
  cases h with
  | unasked _ => rfl
  | remembered hk' _ => exact absurd hk' (by simp [hconstrained])
  | read hk' _ _ => exact absurd hk' (by simp [hconstrained])

/-- The row plan of a job without a constraint is its base query, whatever was built before. -/
lemma rowPlan_eq (hk : c.rewriter.constraint = none) (previous : Option String) :
    c.rowPlan previous = c.rewriter.base.plan [] := by
  rw [rowPlan, Query.Rewriter.rowPlan, hk]
  rfl

/-- The job that reads its rows is the job that began the cycle. -/
lemma job_eq (hk : c.rewriter.constraint = none) (q : RowCall env c s) :
    q.job = c.underway c.store ∧ q.start = s ∧ q.calls = [] := by
  have h := q.retrieved
  rw [retrieval_eq env hk] at h
  obtain ⟨hvalue, hstart, hcalls⟩ := Traced.Run.mk.inj h
  exact ⟨(Prod.mk.inj hvalue).2.symm, hstart.symm, hcalls.symm⟩

lemma plan_eq (hk : c.rewriter.constraint = none) (q : RowCall env c s) :
    q.job.rowPlan q.previous = c.rewriter.base.plan [] := by
  obtain ⟨hjob, -, -⟩ := job_eq hk q
  have hrewriter : q.job.rewriter = c.rewriter := by
    rw [hjob, rewriter_underway]
  have hplan := rowPlan_eq (c := q.job) (by rwa [hrewriter]) q.previous
  rwa [hrewriter] at hplan

/-- A poll that ends with the answer to its row plan is a poll of an unconstrained job. -/
lemma of_rowCall (hk : c.rewriter.constraint = none) (q : RowCall env c s) {result : Result}
    (hresult : result = handed (q.job.rowPlan q.previous) q.answer) :
    Unconstrained env.engine c.rewriter.base c.store s
      ⟨(result, q.after.enter .idle), q.world, q.exchanges⟩ := by
  obtain ⟨hjob, hstart, hcalls⟩ := job_eq hk q
  have hexecuted := q.executed
  rw [plan_eq hk q] at hexecuted hresult
  rw [hstart] at hexecuted
  refine ⟨?_, ?_, ?_, ?_⟩
  · rw [hexecuted, RowCall.exchanges, hcalls, plan_eq hk q]
    rfl
  · rw [hexecuted]
    exact hresult
  · rw [hexecuted]
  · rw [store_enter, q.store_after, hjob, store_underway]

/-- Every poll of a job without a constraint is of this kind. -/
lemma step (env : Surroundings (StateM σ)) (hk : c.rewriter.constraint = none) (s : σ) :
    Unconstrained env.engine c.rewriter.base c.store s (tryPoll env.traced c s) := by
  have hconstrained := isConstrained_eq hk
  have h := exit_tryPoll env c s
  generalize tryPoll env.traced c s = r at h
  cases h with
  | unretrieved h =>
    rw [retrieval_eq env hk] at h
    cases h
  | rowsRefused q h => exact of_rowCall hk q (by rw [h, handed])
  | drained q h hrows => exact of_rowCall hk q (by rw [h, handed, hrows])
  | unconstrained q h _ _ => exact of_rowCall hk q (by rw [h, handed])
  -- A job that asks for a greatest value has a constraint.
  | maxRefused q _ => exact absurd q.isConstrained (by simp [hconstrained])
  | malformed q _ _ => exact absurd q.isConstrained (by simp [hconstrained])
  | unrecorded q _ _ _ => exact absurd q.isConstrained (by simp [hconstrained])
  | recorded q _ _ _ => exact absurd q.isConstrained (by simp [hconstrained])

/-! ### A run -/

/-- A job that is polled again, or built anew before, is without a constraint like the first. -/
lemma constraint_polling (hk : c.rewriter.constraint = none) (anew : Bool) :
    (c.polling anew).rewriter.constraint = none :=
  (congrArg Description.constraint (description_polling anew c)).trans hk

lemma base_polling (c : Cycle) (anew : Bool) :
    (c.polling anew).rewriter.base = c.rewriter.base :=
  congrArg Description.base (description_polling anew c)

lemma constraint_tryPoll (env : Surroundings (StateM σ)) (hk : c.rewriter.constraint = none)
    (s : σ) : (tryPoll env.traced c s).value.2.rewriter.constraint = none :=
  (congrArg Description.constraint (description_tryPoll env c s)).trans hk

lemma base_tryPoll (env : Surroundings (StateM σ)) (c : Cycle) (s : σ) :
    (tryPoll env.traced c s).value.2.rewriter.base = c.rewriter.base :=
  congrArg Description.base (description_tryPoll env c s)

/-- A run of a job without a constraint is its engine asked once for every poll. -/
lemma polls_eq (env : Surroundings (StateM σ)) (hk : c.rewriter.constraint = none)
    (flags : List Bool) (s : σ) :
    let r := polls env.traced flags c s
    let plan := c.rewriter.base.plan []
    let answers := asks env.engine plan flags.length s
    r.exchanges = answers.1.map (.execute plan none) ∧ r.value.1 = answers.1.map (handed plan) ∧
      r.world = answers.2 := by
  induction flags generalizing c s with
  | nil => exact ⟨rfl, rfl, rfl⟩
  | cons anew flags ih =>
    have hpolling := constraint_polling hk anew
    have hstep := step env hpolling s
    obtain ⟨hexchanges, hresults, hworld⟩ :=
      ih (constraint_tryPoll env hpolling s) (tryPoll env.traced (c.polling anew) s).world
    rw [base_tryPoll, base_polling, hstep.world_eq, base_polling] at hexchanges hresults hworld
    rw [polls_cons]
    dsimp only
    rw [hstep.exchanges_eq, hstep.result_eq, hstep.world_eq, base_polling]
    exact ⟨congrArg (_ :: ·) hexchanges, congrArg (_ :: ·) hresults, hworld⟩

/-- The store of a job without a constraint is the one it was given, or that of a job built anew. -/
lemma store_of_mem_moments (env : Surroundings (StateM σ)) (hk : c.rewriter.constraint = none)
    (flags : List Bool) (s : σ) {p : Cycle × σ} (hp : p ∈ moments env flags c s) :
    p.1.store = c.store ∨ p.1.store = c.description.start.store := by
  let kept (d : Cycle) (_ : σ) : Prop :=
    d.description = c.description ∧ (d.store = c.store ∨ d.store = c.description.start.store)
  refine (forall_moments env (I := kept) ?_ ?_ ⟨rfl, .inl rfl⟩ p hp).2
  · rintro d t ⟨hdescription, -⟩
    exact ⟨hdescription, .inr (by rw [hdescription])⟩
  · rintro d t ⟨hdescription, hstore⟩
    have hnone : d.rewriter.constraint = none :=
      (congrArg Description.constraint hdescription).trans hk
    refine ⟨by rw [description_tryPoll, hdescription], ?_⟩
    rwa [(step env hnone t).store_eq]

/-- A job without a constraint that is never built anew ends with the store that it was given. -/
lemma store_polls (env : Surroundings (StateM σ)) (hk : c.rewriter.constraint = none) (n : ℕ)
    (s : σ) : (polls env.traced (List.replicate n false) c s).value.2.store = c.store := by
  induction n generalizing c s with
  | zero => rfl
  | succ n ih =>
    rw [List.replicate_succ, polls_cons]
    exact (ih (constraint_tryPoll env hk s) _).trans (step env hk s).store_eq

end Unconstrained

/-- Surroundings in which no document can be read or written, and whose engine answers from a
list. -/
def scripted : Surroundings (StateM (List Answer)) where
  engine.execute _ _ := fun answers => (answers.headD (.error .transport), answers.tail)
  documents.read _ := pure (.error .transport)
  documents.write _ _ := pure (.error .transport)
  now := pure ⟨2024, 5, 1, 0, 0, 0, 0⟩

/-- A job over a document that cannot be read, whose column is a tabulator and a no-break space. -/
def nameless : Cycle :=
  new (.new (.text "op.fromView('demo', 'authors') ")
    (Query.Constraint.ofColumn? "\t\u00a0" (some 10))) ⟨some ⟨"/authors.json", "", []⟩, .empty "ID"⟩

end Cycle

end Tidemark
