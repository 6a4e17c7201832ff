import Tidemark.Proofs.Cycle.Run
import Tidemark.Proofs.Engine.Evaluation
import Tidemark.Proofs.Query.Agreement

/-!
# What a job asks its engine

A constrained job asks its engine at most twice in a cycle: for the rows above the value that it has
retrieved, and, if there are rows, for their greatest value at the point in time at which they were
read.  `Block` gives the calls of one cycle together with its result, and every cycle of a run makes
such a block of calls (`block_pollAt`).  What the job remembers of earlier cycles, of those that
failed in particular, does not matter: the plans are built from the value retrieved in the same
cycle, and the point in time is the one answered in the same cycle.  Both plans show the base query
and behind it the images of their steps, whether it is a text or a tree (`Query.Base.Shows`).
-/

namespace Tidemark.Cycle

open Engine (pageSteps greatestSteps)

variable {base : Query.Base} {k : Query.Constraint}

/-- The row plan of a constrained job after a previous value. -/
def pagePlan (base : Query.Base) (k : Query.Constraint) (previous : Option String) : Query.Plan :=
  base.plan (pageSteps k.column previous k.rowLimit)

/-- The plan for the greatest value of the page that a row plan reads: the row plan with three more
steps. -/
def greatestPlan (base : Query.Base) (k : Query.Constraint) (previous : Option String) :
    Query.Plan :=
  (pagePlan base k previous).extend
    [.orderBy .descending k.column, .limit 1, .selectAs "constraint" k.column]

/-- The calls of the engine in a cycle, and the result of the cycle, after a retrieval. -/
inductive Block (base : Query.Base) (k : Query.Constraint) :
    Except Watermark.StoreError (Option String) → List EngineCall → Result → Prop
  /-- Nothing is retrieved and nothing is asked. -/
  | unasked (e : Watermark.StoreError) : Block base k (.error e) [] (.error (.store e))
  /-- The rows are asked for and refused. -/
  | refused (v : Option String) (e : Engine.EngineError) :
      Block base k (.ok v) [⟨pagePlan base k v, none, .error e⟩]
        (.error (.execution (pagePlan base k v).queryText e))
  /-- The rows are asked for and there are none. -/
  | drained (v : Option String) {page : Engine.QueryResult} (h : page.rows = []) :
      Block base k (.ok v) [⟨pagePlan base k v, none, .ok page⟩] (.ok [])
  /-- The greatest value is asked for and refused. -/
  | maxRefused (v : Option String) {page : Engine.QueryResult} (h : page.rows ≠ [])
      (e : Engine.EngineError) :
      Block base k (.ok v) [⟨pagePlan base k v, none, .ok page⟩,
          ⟨greatestPlan base k v, some page.token, .error e⟩]
        (.error (.execution (greatestPlan base k v).queryText e))
  /-- The answer to the greatest value has no value. -/
  | malformed (v : Option String) {page answer : Engine.QueryResult} (h : page.rows ≠ [])
      {e : Engine.MaxValueError} (hvalue : Engine.maxValue answer.rows = .error e) :
      Block base k (.ok v) [⟨pagePlan base k v, none, .ok page⟩,
          ⟨greatestPlan base k v, some page.token, .ok answer⟩]
        (.error (.malformedMaxValue (greatestPlan base k v).queryText e))
  /-- The greatest value is given, but it is not recorded. -/
  | unrecorded (v : Option String) {page answer : Engine.QueryResult} (h : page.rows ≠ [])
      (e : Watermark.StoreError) :
      Block base k (.ok v) [⟨pagePlan base k v, none, .ok page⟩,
          ⟨greatestPlan base k v, some page.token, .ok answer⟩] (.error (.store e))
  /-- The greatest value is given and recorded. -/
  | recorded (v : Option String) {page answer : Engine.QueryResult} (h : page.rows ≠ []) :
      Block base k (.ok v) [⟨pagePlan base k v, none, .ok page⟩,
          ⟨greatestPlan base k v, some page.token, .ok answer⟩] (.ok page.rows)

/-! ### What a block says -/

namespace Block

variable {retrieved : Except Watermark.StoreError (Option String)} {calls : List EngineCall}
  {result : Result}

/-- The engine is not asked exactly if nothing is retrieved. -/
lemma calls_eq_nil_iff (h : Block base k retrieved calls result) :
    calls = [] ↔ ∃ e, retrieved = .error e := by
  cases h <;> simp

/-- A cycle asks for its rows first, and asks once more exactly if there are rows. -/
lemma calls_eq (h : Block base k retrieved calls result) {v : Option String}
    (hv : retrieved = .ok v) :
    ∃ answer later, calls = ⟨pagePlan base k v, none, answer⟩ :: later ∧
      (later = [] ↔ ∀ page, answer = .ok page → page.rows = []) ∧
      ∀ page, answer = .ok page → page.rows ≠ [] →
        ∃ reply, later = [⟨greatestPlan base k v, some page.token, reply⟩] := by
  cases h with
  | unasked e => cases hv
  | refused v e =>
    obtain rfl := Except.ok.inj hv
    exact ⟨_, [], rfl, by simp, by simp⟩
  | drained v h =>
    obtain rfl := Except.ok.inj hv
    exact ⟨_, [], rfl, by simpa using h, by simpa using h⟩
  | maxRefused v h e =>
    obtain rfl := Except.ok.inj hv
    exact ⟨_, _, rfl, by simpa using h, by simp⟩
  | malformed v h hvalue =>
    obtain rfl := Except.ok.inj hv
    exact ⟨_, _, rfl, by simpa using h, by simp⟩
  | unrecorded v h e =>
    obtain rfl := Except.ok.inj hv
    exact ⟨_, _, rfl, by simpa using h, by simp⟩
  | recorded v h =>
    obtain rfl := Except.ok.inj hv
    exact ⟨_, _, rfl, by simpa using h, by simp⟩

/-- A call of a cycle asks for the rows above the value retrieved, or it comes second and asks for
their greatest value. -/
lemma mem_cases (h : Block base k retrieved calls result) {call : EngineCall}
    (hcall : call ∈ calls) :
    ∃ v, retrieved = .ok v ∧ ((∃ answer, call = ⟨pagePlan base k v, none, answer⟩) ∨
      ∃ page answer, page.rows ≠ [] ∧ calls = [⟨pagePlan base k v, none, .ok page⟩, call] ∧
        call = ⟨greatestPlan base k v, some page.token, answer⟩) := by
  cases hretrieved : retrieved with
  | error e =>
    have hnil : calls = [] := h.calls_eq_nil_iff.2 ⟨e, hretrieved⟩
    rw [hnil] at hcall
    cases hcall
  | ok v =>
    obtain ⟨answer, later, hcalls, hlater, hsecond⟩ := h.calls_eq hretrieved
    refine ⟨v, rfl, ?_⟩
    rw [hcalls] at hcall
    rcases List.mem_cons.1 hcall with rfl | hmem
    · exact .inl ⟨answer, rfl⟩
    · have hne : ¬ ∀ page, answer = .ok page → page.rows = [] := by
        rw [← hlater]
        exact List.ne_nil_of_mem hmem
      push Not at hne
      obtain ⟨page, rfl, hrows⟩ := hne
      obtain ⟨reply, rfl⟩ := hsecond page rfl hrows
      obtain rfl := List.mem_singleton.1 hmem
      exact .inr ⟨page, reply, hrows, hcalls, rfl⟩

/-- A call at a point in time comes second, after a call whose answer names that point. -/
lemma pinned (h : Block base k retrieved calls result) {call : EngineCall} (hcall : call ∈ calls)
    {t : Engine.PointInTime} (ht : call.point = some t) :
    ∃ first page, calls = [first, call] ∧ first.point = none ∧ first.answer = .ok page ∧
      page.rows ≠ [] ∧ page.token = t ∧
      call.plan = first.plan.extend (greatestSteps "constraint" k.column) := by
  obtain ⟨v, -, ⟨answer, rfl⟩ | ⟨page, answer, hrows, hcalls, rfl⟩⟩ := h.mem_cases hcall
  · cases ht
  · exact ⟨_, page, hcalls, rfl, rfl, hrows, Option.some.inj ht, rfl⟩

/-- A call without a point in time shows the steps of the page above the value retrieved. -/
lemma page_shown (h : Block base k retrieved calls result) {v : Option String}
    (hv : retrieved = .ok v) {call : EngineCall} (hcall : call ∈ calls)
    (hpoint : call.point = none) :
    base.Shows (pageSteps k.column v k.rowLimit) call.plan := by
  obtain ⟨w, hw, ⟨answer, rfl⟩ | ⟨page, answer, -, -, rfl⟩⟩ := h.mem_cases hcall
  · obtain rfl := Except.ok.inj (hv.symm.trans hw)
    exact base.shows_plan _
  · cases hpoint

/-- A call at a point in time shows three more steps. -/
lemma greatest_shown (h : Block base k retrieved calls result) {v : Option String}
    (hv : retrieved = .ok v) {call : EngineCall} (hcall : call ∈ calls)
    (hpoint : call.point ≠ none) :
    base.Shows (pageSteps k.column v k.rowLimit ++ greatestSteps "constraint" k.column)
      call.plan := by
  obtain ⟨w, hw, ⟨answer, rfl⟩ | ⟨page, answer, -, -, rfl⟩⟩ := h.mem_cases hcall
  · exact absurd rfl hpoint
  · obtain rfl := Except.ok.inj (hv.symm.trans hw)
    have hplan : greatestPlan base k v
        = base.plan (pageSteps k.column v k.rowLimit ++ greatestSteps "constraint" k.column) :=
      (base.plan_append _ _).symm
    rw [hplan]
    exact base.shows_plan _

/-- An execution error names the query of the last call, which is the one that failed. -/
lemma execution (h : Block base k retrieved calls result) {query : String}
    {source : Engine.EngineError} (hresult : result = .error (.execution query source)) :
    ∃ call, calls.getLast? = some call ∧ call.answer = .error source ∧
      query = call.plan.queryText := by
  cases h with
  | refused v e =>
    cases hresult
    exact ⟨_, rfl, rfl, rfl⟩
  | maxRefused v h e =>
    cases hresult
    exact ⟨_, rfl, rfl, rfl⟩
  | _ => cases hresult

/-- A malformed greatest value comes from a call at a point in time, and the error names its
query. -/
lemma malformedMaxValue (h : Block base k retrieved calls result) {query : String}
    {source : Engine.MaxValueError}
    (hresult : result = .error (.malformedMaxValue query source)) :
    ∃ call answer, calls.getLast? = some call ∧ call.point ≠ none ∧ call.answer = .ok answer ∧
      Engine.maxValue answer.rows = .error source ∧ query = call.plan.queryText := by
  cases h with
  | malformed v h hvalue =>
    cases hresult
    exact ⟨_, _, rfl, Option.some_ne_none _, rfl, hvalue, rfl⟩
  | _ => cases hresult

end Block

/-! ### The calls of one cycle -/

section Step

variable {σ : Type} {env : Surroundings (StateM σ)} {c : Cycle} {s : σ}

namespace RowCall

/-- The row plan of a cycle is built from the value retrieved in it. -/
lemma rowPlan_eq (q : RowCall env c s) (hk : c.rewriter.constraint = some k) :
    q.job.rowPlan q.previous = pagePlan c.rewriter.base k q.previous := by
  have hbase : q.job.rewriter.base = c.rewriter.base :=
    congrArg Description.base q.description_job
  have hconstraint : q.job.rewriter.constraint = some k :=
    (congrArg Description.constraint q.description_job).trans hk
  rw [pagePlan, ← hbase, rowPlan, Query.Rewriter.rowPlan, hconstraint]
  rfl

/-- The value retrieved in a cycle is what the store of the job retrieves. -/
lemma previous_eq (q : RowCall env c s) (hk : c.rewriter.constraint = some k) :
    (c.store.retrieve env.traced.documents s).value.1 = .ok q.previous :=
  retrieve_eq_of_retrieval (isConstrained_of_constraint hk) q.retrieved

end RowCall

/-- The max-value plan of a cycle extends its row plan. -/
lemma MaxCall.plan_eq (q : MaxCall env c s) (hk : c.rewriter.constraint = some k) :
    q.plan = greatestPlan c.rewriter.base k q.previous := by
  have hconstraint : q.job.rewriter.constraint = some k :=
    (congrArg Description.constraint q.toRowCall.description_job).trans hk
  have hplan := q.planned
  rw [rewriter_reading, Query.Rewriter.maxPlan_rowPlan q.job.rewriter hconstraint] at hplan
  rw [greatestPlan, ← q.toRowCall.rowPlan_eq hk]
  exact (Option.some.inj hplan).symm

/-- However a cycle ends, its calls of the engine and its result are a block. -/
lemma Exit.block {r : Traced.Run σ Outcome} (h : Exit env c s r)
    (hk : c.rewriter.constraint = some k) :
    Block c.rewriter.base k (c.store.retrieve env.traced.documents s).value.1
      (engineCalls r.exchanges) r.value.1 := by
  cases h with
  | @unretrieved e d t xs h =>
    have hretrieved := retrieved_retrieval env c s
    rw [h] at hretrieved
    rw [retrieve_eq_of_retrieval (isConstrained_of_constraint hk) h, hretrieved.engineCalls_eq]
    exact .unasked e
  | rowsRefused q h =>
    rw [q.previous_eq hk, q.engineCalls_exchanges, h, q.rowPlan_eq hk]
    exact .refused q.previous _
  | drained q h hrows =>
    rw [q.previous_eq hk, q.engineCalls_exchanges, h, q.rowPlan_eq hk]
    exact .drained q.previous hrows
  | unconstrained q h hrows hplan =>
    rw [q.maxPlan_eq_none_iff, isConstrained_of_constraint hk] at hplan
    cases hplan
  | maxRefused q h =>
    rw [q.previous_eq hk, q.engineCalls_exchanges, q.answered, h, q.rowPlan_eq hk, q.plan_eq hk]
    exact .maxRefused q.previous q.rows_ne_nil _
  | malformed q h hvalue =>
    rw [q.previous_eq hk, q.engineCalls_exchanges, q.answered, h, q.rowPlan_eq hk, q.plan_eq hk]
    exact .malformed q.previous q.rows_ne_nil hvalue
  | unrecorded q h hvalue hrecord =>
    rw [q.previous_eq hk, engineCalls_append, q.engineCalls_exchanges, q.answered, h,
      q.rowPlan_eq hk, q.plan_eq hk, (q.recording_cases hrecord).engineCalls_eq]
    exact .unrecorded q.previous q.rows_ne_nil _
  | recorded q h hvalue hrecord =>
    rw [q.previous_eq hk, engineCalls_append, q.engineCalls_exchanges, q.answered, h,
      q.rowPlan_eq hk, q.plan_eq hk, (q.recording_cases hrecord).engineCalls_eq]
    exact .recorded q.previous q.rows_ne_nil

end Step

/-! ### The calls of a run -/

/-- The calls of the engine in one cycle, told from what was retrieved, and the calls that the
errors of the cycle name. -/
structure FollowsProtocol (base : Query.Base) (k : Query.Constraint)
    (retrieved : Except Watermark.StoreError (Option String)) (calls : List EngineCall)
    (result : Result) : Prop where
  /-- The engine is not asked exactly if nothing was retrieved. -/
  silent : calls = [] ↔ ∃ e, retrieved = .error e
  /-- The rows are asked for first, without a point in time; a second and last call is made exactly
  if there are rows, with the plan of the first call sorted the other way, cut off after one row and
  projected to the column, at the point in time of its answer. -/
  asks : ∀ v, retrieved = .ok v → ∃ answer later,
    calls = ⟨base.plan (pageSteps k.column v k.rowLimit), none, answer⟩ :: later ∧
      (later = [] ↔ ∀ page, answer = .ok page → page.rows = []) ∧
      ∀ page, answer = .ok page → page.rows ≠ [] → ∃ reply,
        later = [⟨(base.plan (pageSteps k.column v k.rowLimit)).extend
          [.orderBy .descending k.column, .limit 1, .selectAs "constraint" k.column],
          some page.token, reply⟩]
  /-- A call at a point in time follows a call of the same cycle whose answer names that point. -/
  pinned : ∀ call ∈ calls, ∀ t, call.point = some t → ∃ first page,
    calls = [first, call] ∧ first.point = none ∧ first.answer = .ok page ∧ page.rows ≠ [] ∧
      page.token = t ∧ call.plan = first.plan.extend
        [.orderBy .descending k.column, .limit 1, .selectAs "constraint" k.column]
  /-- The first call shows the base query and the steps of a page above exactly the value that was
  retrieved. -/
  page_shown : ∀ v, retrieved = .ok v → ∀ call ∈ calls, call.point = none →
    base.Shows (pageSteps k.column v k.rowLimit) call.plan
  /-- The second call shows the same, and three more steps. -/
  greatest_shown : ∀ v, retrieved = .ok v → ∀ call ∈ calls, call.point ≠ none →
    base.Shows (pageSteps k.column v k.rowLimit
      ++ [.orderBy .descending k.column, .limit 1, .selectAs "constraint" k.column]) call.plan
  execution : ∀ query source, result = .error (.execution query source) → ∃ call,
    calls.getLast? = some call ∧ call.answer = .error source ∧ query = call.plan.queryText
  malformed : ∀ query source, result = .error (.malformedMaxValue query source) →
    ∃ call answer, calls.getLast? = some call ∧ call.point ≠ none ∧ call.answer = .ok answer ∧
      Engine.maxValue answer.rows = .error source ∧ query = call.plan.queryText

/-- A block of calls follows the protocol. -/
lemma Block.followsProtocol {retrieved : Except Watermark.StoreError (Option String)}
    {calls : List EngineCall} {result : Result} (h : Block base k retrieved calls result) :
    FollowsProtocol base k retrieved calls result where
  silent := h.calls_eq_nil_iff
  asks _ hv := h.calls_eq hv
  pinned _ hcall _ ht := h.pinned hcall ht
  page_shown _ hv _ hcall hpoint := h.page_shown hv hcall hpoint
  greatest_shown _ hv _ hcall hpoint := h.greatest_shown hv hcall hpoint
  execution _ _ hresult := h.execution hresult
  malformed _ _ hresult := h.malformedMaxValue hresult

variable {σ : Type}

/-- The calls of the engine in a run are those of its polls. -/
lemma engineCalls_polls (env : Surroundings (StateM σ)) (flags : List Bool) (c : Cycle) (s : σ) :
    engineCalls (polls env.traced flags c s).exchanges
      = (moments env flags c s).flatMap fun p => engineCalls (pollAt env p).exchanges := by
  rw [exchanges_polls, engineCalls, List.filterMap_flatMap]
  rfl

/-- **The calls of the engine in a run follow the protocol, poll by poll.**  For every constrained
job, whatever its store, its engine and its backend do, and wherever it is started anew: the calls
of the engine are the calls of the polls, one block after the other, and each block follows the
protocol, starting from exactly what the store retrieves in that poll. -/
theorem engine_calls_follow_protocol (env : Surroundings (StateM σ)) {k : Query.Constraint}
    {c : Cycle} (hk : c.rewriter.constraint = some k) (flags : List Bool) (s : σ) :
    (moments env flags c s).length = flags.length ∧
      engineCalls (polls env.traced flags c s).exchanges
        = ((moments env flags c s).map fun p => engineCalls (pollAt env p).exchanges).flatten ∧
      (polls env.traced flags c s).value.1
        = (moments env flags c s).map (fun p => (pollAt env p).value.1) ∧
      ∀ p ∈ moments env flags c s,
        FollowsProtocol c.rewriter.base k (p.1.store.retrieve env.traced.documents p.2).value.1
          (engineCalls (pollAt env p).exchanges) (pollAt env p).value.1 := by
  refine ⟨length_moments env flags c s, ?_, results_polls env flags c s, ?_⟩
  · rw [engineCalls_polls, List.flatMap_def]
  · intro p hp
    have hdescription := description_of_mem_moments env hp
    have hbase : p.1.rewriter.base = c.rewriter.base := congrArg Description.base hdescription
    have hconstraint : p.1.rewriter.constraint = some k :=
      (congrArg Description.constraint hdescription).trans hk
    have hblock := (exit_tryPoll env p.1 p.2).block hconstraint
    rw [hbase] at hblock
    exact hblock.followsProtocol

/-- Two polls of a job, the second one by the job started anew: each asks for the rows above the
value that is stored, and then for the greatest value at the point in time of the answer. -/
theorem engine_calls_of_authors :
    let calls := engineCalls (polls oneRow.traced [false, true] authors.start none).exchanges
    authors.start.rewriter.constraint = some idColumn ∧
      calls = ((moments oneRow [false, true] authors.start none).map
        fun p => engineCalls (pollAt oneRow p).exchanges).flatten ∧
      (∀ p ∈ moments oneRow [false, true] authors.start none,
        FollowsProtocol authors.base idColumn
          (p.1.store.retrieve oneRow.traced.documents p.2).value.1
          (engineCalls (pollAt oneRow p).exchanges) (pollAt oneRow p).value.1) ∧
      calls.map (fun call => (call.plan.queryText, call.point))
        = [("op.fromView('demo', 'authors').orderBy(op.asc(op.col('ID')))", none),
          ("op.fromView('demo', 'authors').orderBy(op.asc(op.col('ID')))"
            ++ ".orderBy(op.desc(op.col('ID'))).limit(1).select(op.as('constraint', op.col('ID')))",
            some ⟨7⟩),
          ("op.fromView('demo', 'authors').where(op.gt(op.col('ID'), '6'))"
            ++ ".orderBy(op.asc(op.col('ID')))", none),
          ("op.fromView('demo', 'authors').where(op.gt(op.col('ID'), '6'))"
            ++ ".orderBy(op.asc(op.col('ID')))"
            ++ ".orderBy(op.desc(op.col('ID'))).limit(1).select(op.as('constraint', op.col('ID')))",
            some ⟨7⟩)] := by
  intro calls
  have hk : authors.start.rewriter.constraint = some idColumn := rfl
  obtain ⟨-, hcalls, -, hprotocol⟩ := engine_calls_follow_protocol oneRow hk [false, true] none
  exact ⟨hk, hcalls, hprotocol, by decide +kernel⟩

end Tidemark.Cycle
