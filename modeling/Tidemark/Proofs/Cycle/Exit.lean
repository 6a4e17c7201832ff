import Tidemark.Proofs.Cycle.Trace

/-!
# How a cycle can end

A cycle retrieves its watermark (`Retrieved`), has a row plan executed (`RowCall`), has a max-value
plan executed (`MaxCall`) and records a mark (`Recording`); at each point it may stop.  `Exit` lists
the ways in which it can end, each with its result, the job and the world after it, and the calls it
made.  Every cycle ends in one of these ways (`exit_tryPoll`), and this is all that later proofs
need to know about the code of a cycle.
-/

namespace Tidemark

/-- The document by which a store records a mark. -/
def Watermark.Store.documentOf (store : Watermark.Store) (mark : Mark) : Watermark.Document :=
  Watermark.Store.document store.current.column mark

namespace Cycle

variable {σ : Type}

/-- The row plan of a job after a previous value. -/
def rowPlan (c : Cycle) (previous : Option String) : Query.Plan :=
  (c.rewriter.rowPlan previous).1

/-- The job once the watermark was retrieved and the row plan was built. -/
def reading (c : Cycle) (previous : Option String) : Cycle :=
  { c with rewriter := (c.rewriter.rowPlan previous).2 }.enter .executingRows

@[simp] lemma rewriter_reading (c : Cycle) (previous : Option String) :
    (c.reading previous).rewriter = (c.rewriter.rowPlan previous).2 := by
  simp [reading]

@[simp] lemma store_reading (c : Cycle) (previous : Option String) :
    (c.reading previous).store = c.store := by
  simp [reading]

/-! ### The calls of the store -/

/-- What a retrieval gives, and the job after it. -/
abbrev Retrieval := Except Watermark.StoreError (Option String) × Cycle

/-- What recording a mark gives, and the store after it. -/
abbrev Record := Except Watermark.StoreError Unit × Watermark.Store

/-- The retrieval at the start of a cycle: what it gives, the job and the world after it, and its
calls. -/
def retrieval (env : Surroundings (StateM σ)) (c : Cycle) (s : σ) :
    Traced.Run σ Retrieval :=
  previousValue env.traced (c.begin.enter .building) s

/-- The job after a retrieval that leaves it with a store. -/
def underway (c : Cycle) (store : Watermark.Store) : Cycle :=
  { c.begin.enter .building with store }

@[simp] lemma store_underway (c : Cycle) (store : Watermark.Store) :
    (c.underway store).store = store :=
  rfl

@[simp] lemma rewriter_underway (c : Cycle) (store : Watermark.Store) :
    (c.underway store).rewriter = c.rewriter :=
  rewriter_enter c.begin .building

/-- The ways in which a retrieval can go. -/
inductive Retrieved (env : Surroundings (StateM σ)) (c : Cycle) (s : σ) :
    Traced.Run σ Retrieval → Prop
  /-- Without a constraint the store is not asked. -/
  | unasked (hk : c.rewriter.isConstrained = false) :
      Retrieved env c s ⟨(.ok none, c.underway c.store), s, []⟩
  /-- A store without a location answers from itself. -/
  | remembered (hk : c.rewriter.isConstrained = true) (hl : c.store.location = none) :
      Retrieved env c s ⟨(.ok c.store.current.value, c.underway c.store), s, []⟩
  /-- A store with a location reads its document. -/
  | read (hk : c.rewriter.isConstrained = true) {l : Storage.Location}
      (hl : c.store.location = some l) {answer : Except Storage.BackendError (Option String)}
      {t : σ} (hread : (env.documents.read l.uri).run s = (answer, t)) :
      Retrieved env c s ⟨((c.store.load l.uri answer).1,
        c.underway (c.store.load l.uri answer).2), t, [.read l.uri answer]⟩

/-- A job with a constraint retrieves what its store retrieves. -/
lemma retrieval_of_isConstrained (env : Surroundings (StateM σ)) {c : Cycle}
    (hk : c.rewriter.isConstrained = true) (s : σ) :
    c.retrieval env s =
      let r := c.store.retrieve env.traced.documents s
      ⟨(r.value.1, c.underway r.value.2), r.world, r.exchanges⟩ := by
  have hconstrained : (c.begin.enter .building).rewriter.isConstrained = true := by
    rw [rewriter_enter]
    exact hk
  have hstore : (c.begin.enter .building).store = c.store :=
    store_enter c.begin .building
  unfold retrieval previousValue
  rw [if_pos hconstrained, hstore]
  change Traced.Run.mk _ _ ((c.store.retrieve env.traced.documents s).exchanges ++ []) = _
  rw [List.append_nil]
  rfl

/-- What a retrieval gives to a job with a constraint is what the store gives. -/
lemma retrieve_eq_of_retrieval {env : Surroundings (StateM σ)} {c : Cycle}
    (hk : c.rewriter.isConstrained = true) {s t : σ}
    {result : Except Watermark.StoreError (Option String)} {d : Cycle} {xs : List Exchange}
    (h : c.retrieval env s = ⟨(result, d), t, xs⟩) :
    (c.store.retrieve env.traced.documents s).value.1 = result := by
  rw [retrieval_of_isConstrained env hk] at h
  exact congrArg Prod.fst (congrArg Traced.Run.value h)

/-- Every retrieval goes in one of these ways. -/
theorem retrieved_retrieval (env : Surroundings (StateM σ)) (c : Cycle) (s : σ) :
    Retrieved env c s (c.retrieval env s) := by
  cases hk : c.rewriter.isConstrained with
  | false =>
    have hconstrained : ¬ (c.begin.enter .building).rewriter.isConstrained = true := by
      rw [rewriter_enter]
      exact Bool.eq_false_iff.1 hk
    have hstore : (c.begin.enter .building).store = c.store :=
      store_enter c.begin .building
    have hunderway : c.begin.enter .building = c.underway c.store := by
      rw [underway, ← hstore]
    have hnone : c.retrieval env s = ⟨(.ok none, c.underway c.store), s, []⟩ := by
      unfold retrieval previousValue
      rw [if_neg hconstrained, hunderway]
      rfl
    rw [hnone]
    exact .unasked hk
  | true =>
    rw [retrieval_of_isConstrained env hk s]
    cases hl : c.store.location with
    | none =>
      rw [Watermark.Store.retrieve_traced_of_none env hl]
      exact .remembered hk hl
    | some l =>
      rw [Watermark.Store.retrieve_traced_of_some env hl rfl]
      exact .read hk hl rfl

/-- The ways in which a mark can be recorded or refused. -/
inductive Recording (env : Surroundings (StateM σ)) (store : Watermark.Store) (mark : Mark)
    (s : σ) : Traced.Run σ Record → Prop
  /-- A store without a location keeps the mark itself. -/
  | kept (hl : store.location = none) :
      Recording env store mark s
        ⟨(.ok (), { store with current := store.current.update mark }), s, []⟩
  /-- A store with a location writes its document. -/
  | written {l : Storage.Location} (hl : store.location = some l) {t : σ}
      (hwrite : (env.documents.write l (store.documentOf mark).toJson).run s = (.ok (), t)) :
      Recording env store mark s
        ⟨(.ok (), { store with current := store.current.update mark }), t,
          [.write l (store.documentOf mark).toJson (.ok ())]⟩
  /-- The document is not written, and the store stays as it is. -/
  | refused {l : Storage.Location} (hl : store.location = some l) {t : σ}
      {e : Storage.BackendError}
      (hwrite : (env.documents.write l (store.documentOf mark).toJson).run s = (.error e, t)) :
      Recording env store mark s ⟨(.error (.access l.uri e), store), t,
        [.write l (store.documentOf mark).toJson (.error e)]⟩

/-- Every mark is recorded or refused in one of these ways. -/
theorem recording_record (env : Surroundings (StateM σ)) (store : Watermark.Store) (mark : Mark)
    (s : σ) : Recording env store mark s (store.record env.traced.documents mark s) := by
  cases hl : store.location with
  | none =>
    rw [Watermark.Store.record_traced_of_none env hl]
    exact .kept hl
  | some l =>
    rcases hwrite : (env.documents.write l (store.documentOf mark).toJson).run s with ⟨answer, t⟩
    rw [Watermark.Store.record_traced_of_some env hl mark hwrite]
    cases answer with
    | ok u => exact .written hl hwrite
    | error e => exact .refused hl hwrite

section Kinds

variable {env : Surroundings (StateM σ)} {c : Cycle} {s : σ}

/-- A retrieval asks the engine nothing. -/
lemma Retrieved.engineCalls_eq {r : Traced.Run σ Retrieval}
    (h : Retrieved env c s r) : engineCalls r.exchanges = [] := by
  cases h <;> rfl

/-- A retrieval makes no write. -/
lemma Retrieved.writeCalls_eq {r : Traced.Run σ Retrieval}
    (h : Retrieved env c s r) : writeCalls r.exchanges = [] := by
  cases h <;> rfl

/-- Recording a mark asks the engine nothing. -/
lemma Recording.engineCalls_eq {store : Watermark.Store} {mark : Mark}
    {r : Traced.Run σ Record}
    (h : Recording env store mark s r) : engineCalls r.exchanges = [] := by
  cases h <;> rfl

end Kinds

/-! ### The calls of the engine -/

/-- What a job does with the answer to its row plan. -/
def onRows (env : Surroundings (StateM σ)) (plan : Query.Plan) (c : Cycle) :
    Except Engine.EngineError Engine.QueryResult → Traced σ Outcome
  | .error e => pure (.error (.execution plan.queryText e), c)
  | .ok result =>
    match result.rows, c.rewriter.maxPlan with
    | [], _ => pure (.ok [], c)
    | rows, none => pure (.ok rows, c)
    | _, some plan => advance env.traced result plan c

/-- The rows are read by one call, and what follows depends on its answer. -/
lemma readRows_eq (env : Surroundings (StateM σ)) (previous : Option String) (c : Cycle) :
    readRows env.traced previous c = env.traced.engine.execute (c.rowPlan previous) none >>=
      onRows env (c.rowPlan previous) (c.reading previous) := by
  refine bind_congr fun answer => ?_
  cases answer <;> rfl

/-- A cycle up to the answer to its row plan. -/
structure RowCall (env : Surroundings (StateM σ)) (c : Cycle) (s : σ) where
  previous : Option String
  /-- The job after the retrieval. -/
  job : Cycle
  /-- The world after the retrieval. -/
  start : σ
  calls : List Exchange
  retrieved : c.retrieval env s = ⟨(.ok previous, job), start, calls⟩
  answer : Except Engine.EngineError Engine.QueryResult
  world : σ
  executed : (env.engine.execute (job.rowPlan previous) none).run start = (answer, world)

/-- A cycle up to the answer to its max-value plan. -/
structure MaxCall (env : Surroundings (StateM σ)) (c : Cycle) (s : σ) extends RowCall env c s where
  result : Engine.QueryResult
  answered : answer = .ok result
  rows_ne_nil : result.rows ≠ []
  plan : Query.Plan
  planned : (job.reading previous).rewriter.maxPlan = some plan
  reply : Except Engine.EngineError Engine.QueryResult
  /-- The world after the reply. -/
  finish : σ
  asked : (env.engine.execute plan (some result.token)).run world = (reply, finish)

namespace RowCall

variable {env : Surroundings (StateM σ)} {c : Cycle} {s : σ}

/-- The retrieval before a row call. -/
lemma retrieved_cases (q : RowCall env c s) :
    Retrieved env c s ⟨(.ok q.previous, q.job), q.start, q.calls⟩ := by
  have h := retrieved_retrieval env c s
  rwa [q.retrieved] at h

/-- The calls up to the answer to the row plan. -/
def exchanges (q : RowCall env c s) : List Exchange :=
  q.calls ++ [.execute (q.job.rowPlan q.previous) none q.answer]

/-- The job when the rows are read. -/
def after (q : RowCall env c s) : Cycle :=
  q.job.reading q.previous

@[simp] lemma store_after (q : RowCall env c s) : q.after.store = q.job.store :=
  store_reading q.job q.previous

/-- Up to the answer to the row plan the engine is called once. -/
lemma engineCalls_exchanges (q : RowCall env c s) :
    engineCalls q.exchanges = [⟨q.job.rowPlan q.previous, none, q.answer⟩] := by
  rw [RowCall.exchanges, engineCalls_append, q.retrieved_cases.engineCalls_eq]
  rfl

/-- What is left to do once the row plan is answered. -/
def rest (q : RowCall env c s) : Traced σ Outcome :=
  onRows env (q.job.rowPlan q.previous) q.after q.answer

end RowCall

namespace MaxCall

variable {env : Surroundings (StateM σ)} {c : Cycle} {s : σ}

/-- The calls up to the answer to the max-value plan. -/
def exchanges (q : MaxCall env c s) : List Exchange :=
  q.toRowCall.exchanges ++ [.execute q.plan (some q.result.token) q.reply]

/-- The job when the greatest value is read. -/
def after (q : MaxCall env c s) : Cycle :=
  q.toRowCall.after.enter .executingMax

@[simp] lemma store_after (q : MaxCall env c s) : q.after.store = q.job.store := by
  rw [MaxCall.after, store_enter, q.toRowCall.store_after]

/-- Up to the answer to the max-value plan the engine is called twice. -/
lemma engineCalls_exchanges (q : MaxCall env c s) :
    engineCalls q.exchanges = [⟨q.job.rowPlan q.previous, none, q.answer⟩,
      ⟨q.plan, some q.result.token, q.reply⟩] := by
  rw [MaxCall.exchanges, engineCalls_append, q.toRowCall.engineCalls_exchanges]
  rfl

/-- The mark that a cycle records for a value. -/
def mark (q : MaxCall env c s) (value : String) : Mark :=
  ⟨value, UInt64.ofNat q.result.rows.length, (env.now.run q.finish).1⟩

/-- What recording the mark for a value gives. -/
def recording (q : MaxCall env c s) (value : String) :
    Traced.Run σ Record :=
  q.job.store.record env.traced.documents (q.mark value) (env.now.run q.finish).2

/-- Recording the mark for a value goes in one of the ways listed. -/
lemma recording_cases (q : MaxCall env c s) {value : String}
    {r : Traced.Run σ Record}
    (h : q.recording value = r) :
    Recording env q.job.store (q.mark value) (env.now.run q.finish).2 r := by
  rw [← h]
  exact recording_record env q.job.store (q.mark value) (env.now.run q.finish).2

/-- The job once the mark was recorded or refused. -/
def marked (q : MaxCall env c s) (store : Watermark.Store) : Cycle :=
  { q.after.enter .persisting with store }

end MaxCall

/-! ### The ways to end -/

/-- The ways in which a cycle can end. -/
inductive Exit (env : Surroundings (StateM σ)) (c : Cycle) (s : σ) : Traced.Run σ Outcome → Prop
  /-- The watermark is not retrieved. -/
  | unretrieved {e : Watermark.StoreError} {d : Cycle} {t : σ} {xs : List Exchange}
      (h : c.retrieval env s = ⟨(.error e, d), t, xs⟩) :
      Exit env c s ⟨(.error (.store e), d.enter .idle), t, xs⟩
  /-- The row plan is not executed. -/
  | rowsRefused (q : RowCall env c s) {e : Engine.EngineError} (h : q.answer = .error e) :
      Exit env c s ⟨(.error (.execution (q.job.rowPlan q.previous).queryText e),
        q.after.enter .idle), q.world, q.exchanges⟩
  /-- There are no rows. -/
  | drained (q : RowCall env c s) {r : Engine.QueryResult} (h : q.answer = .ok r)
      (hrows : r.rows = []) :
      Exit env c s ⟨(.ok [], q.after.enter .idle), q.world, q.exchanges⟩
  /-- There are rows, but no constraint whose greatest value could be asked for. -/
  | unconstrained (q : RowCall env c s) {r : Engine.QueryResult} (h : q.answer = .ok r)
      (hrows : r.rows ≠ []) (hplan : q.after.rewriter.maxPlan = none) :
      Exit env c s ⟨(.ok r.rows, q.after.enter .idle), q.world, q.exchanges⟩
  /-- The max-value plan is not executed. -/
  | maxRefused (q : MaxCall env c s) {e : Engine.EngineError} (h : q.reply = .error e) :
      Exit env c s ⟨(.error (.execution q.plan.queryText e), q.after.enter .idle), q.finish,
        q.exchanges⟩
  /-- The answer to the max-value plan has no value. -/
  | malformed (q : MaxCall env c s) {a : Engine.QueryResult} (h : q.reply = .ok a)
      {e : Engine.MaxValueError} (hvalue : Engine.maxValue a.rows = .error e) :
      Exit env c s ⟨(.error (.malformedMaxValue q.plan.queryText e), q.after.enter .idle),
        q.finish, q.exchanges⟩
  /-- The mark is not written. -/
  | unrecorded (q : MaxCall env c s) {a : Engine.QueryResult} (h : q.reply = .ok a)
      {value : String} (hvalue : Engine.maxValue a.rows = .ok value) {e : Watermark.StoreError}
      {store : Watermark.Store} {t : σ} {xs : List Exchange}
      (hrecord : q.recording value = ⟨(.error e, store), t, xs⟩) :
      Exit env c s ⟨(.error (.store e), (q.marked store).enter .idle), t, q.exchanges ++ xs⟩
  /-- The mark is recorded. -/
  | recorded (q : MaxCall env c s) {a : Engine.QueryResult} (h : q.reply = .ok a)
      {value : String} (hvalue : Engine.maxValue a.rows = .ok value) {store : Watermark.Store}
      {t : σ} {xs : List Exchange} (hrecord : q.recording value = ⟨(.ok (), store), t, xs⟩) :
      Exit env c s ⟨(.ok q.result.rows, (q.marked store).enter .idle), t, q.exchanges ++ xs⟩

/-! ### Every cycle ends in one of these ways -/

section Stages

variable {env : Surroundings (StateM σ)} {c : Cycle} {s : σ}

/-- A call of the engine is noted with its answer. -/
lemma execute_traced {plan : Query.Plan} {point : Option Engine.PointInTime} {t u : σ}
    {answer : Except Engine.EngineError Engine.QueryResult}
    (h : (env.engine.execute plan point).run t = (answer, u)) :
    env.traced.engine.execute plan point t = ⟨answer, u, [.execute plan point answer]⟩ := by
  simp only [Surroundings.traced, h]

/-- The end of a cycle brings the job to rest. -/
lemma tryPoll_of_run {result : Except CycleError (List Engine.Row)} {d : Cycle} {t : σ}
    {xs : List Exchange} (h : run env.traced c.begin s = ⟨(result, d), t, xs⟩) :
    tryPoll env.traced c s = ⟨(result, d.enter .idle), t, xs⟩ := by
  unfold tryPoll
  rw [Traced.bind_apply h]
  simp

/-- A cycle ends where its watermark is not retrieved. -/
lemma run_of_unretrieved {e : Watermark.StoreError} {d : Cycle} {t : σ} {xs : List Exchange}
    (h : c.retrieval env s = ⟨(.error e, d), t, xs⟩) :
    run env.traced c.begin s = ⟨(.error (.store e), d), t, xs⟩ := by
  unfold run
  refine (Traced.bind_apply h).trans ?_
  simp

/-- A cycle goes on with the rows after the watermark. -/
lemma run_of_readRows (q : RowCall env c s) {r : Traced.Run σ Outcome}
    (h : readRows env.traced q.previous q.job q.start = r) :
    run env.traced c.begin s = ⟨r.value, r.world, q.calls ++ r.exchanges⟩ := by
  unfold run
  rw [← h]
  exact Traced.bind_apply q.retrieved

/-- The row plan is executed, and then the rest is done. -/
lemma readRows_traced (q : RowCall env c s) :
    readRows env.traced q.previous q.job q.start =
      ⟨(q.rest q.world).value, (q.rest q.world).world,
        .execute (q.job.rowPlan q.previous) none q.answer :: (q.rest q.world).exchanges⟩ := by
  rw [readRows_eq]
  exact Traced.bind_apply (execute_traced q.executed)

/-- A cycle is its retrieval, its row call and the rest. -/
lemma run_traced (q : RowCall env c s) :
    run env.traced c.begin s =
      ⟨(q.rest q.world).value, (q.rest q.world).world,
        q.exchanges ++ (q.rest q.world).exchanges⟩ := by
  rw [run_of_readRows q (readRows_traced q), RowCall.exchanges, List.append_assoc]
  rfl

/-- After a refused row plan there is nothing left to do. -/
lemma rest_of_refused (q : RowCall env c s) {e : Engine.EngineError} (h : q.answer = .error e) :
    q.rest = pure (.error (.execution (q.job.rowPlan q.previous).queryText e), q.after) := by
  rw [RowCall.rest, h, onRows]

/-- Without rows there is nothing left to do. -/
lemma rest_of_drained (q : RowCall env c s) {r : Engine.QueryResult} (h : q.answer = .ok r)
    (hrows : r.rows = []) : q.rest = pure (.ok [], q.after) := by
  simp only [RowCall.rest, onRows, h, hrows]

/-- Without a constraint the rows are handed on as they are. -/
lemma rest_of_unconstrained (q : RowCall env c s) {r : Engine.QueryResult} (h : q.answer = .ok r)
    (hrows : r.rows ≠ []) (hplan : q.after.rewriter.maxPlan = none) :
    q.rest = pure (.ok r.rows, q.after) := by
  obtain ⟨row, rows, hcons⟩ := List.exists_cons_of_ne_nil hrows
  simp only [RowCall.rest, onRows, h, hcons, hplan]

/-- With rows and a max-value plan the watermark is to be advanced. -/
lemma rest_of_planned (q : MaxCall env c s) :
    q.rest = advance env.traced q.result q.plan q.toRowCall.after := by
  obtain ⟨row, rows, hcons⟩ := List.exists_cons_of_ne_nil q.rows_ne_nil
  have hplan : q.toRowCall.after.rewriter.maxPlan = some q.plan := q.planned
  simp only [RowCall.rest, onRows, q.answered, hcons, hplan]

/-- What is left to do once the max-value plan is answered. -/
def MaxCall.settle (q : MaxCall env c s) : Traced σ Outcome :=
  match q.reply with
  | .error e => pure (.error (.execution q.plan.queryText e), q.after)
  | .ok answer =>
    match Engine.maxValue answer.rows with
    | .error e => pure (.error (.malformedMaxValue q.plan.queryText e), q.after)
    | .ok value => persist env.traced q.result.rows value q.after

/-- The greatest value is read by one call, and what follows depends on its answer. -/
lemma run_traced_of_planned (q : MaxCall env c s) :
    run env.traced c.begin s =
      ⟨(q.settle q.finish).value, (q.settle q.finish).world,
        q.exchanges ++ (q.settle q.finish).exchanges⟩ := by
  have hadvance : advance env.traced q.result q.plan q.toRowCall.after q.world =
      ⟨(q.settle q.finish).value, (q.settle q.finish).world,
        .execute q.plan (some q.result.token) q.reply :: (q.settle q.finish).exchanges⟩ :=
    Traced.bind_apply (execute_traced q.asked)
  rw [run_traced, rest_of_planned, hadvance, MaxCall.exchanges, List.append_assoc]
  rfl

/-- A mark is recorded at the time that the clock shows, and the rows are handed on if it is. -/
lemma persist_traced (q : MaxCall env c s) {value : String}
    {outcome : Except Watermark.StoreError Unit} {store : Watermark.Store} {t : σ}
    {xs : List Exchange} (h : q.recording value = ⟨(outcome, store), t, xs⟩) :
    persist env.traced q.result.rows value q.after q.finish =
      ⟨(outcome.mapError CycleError.store |>.map fun _ => q.result.rows, q.marked store), t,
        xs⟩ := by
  have hstore : (q.after.enter .persisting).store = q.job.store := by
    simp [MaxCall.after, RowCall.after]
  have hnow : env.traced.now q.finish
      = ⟨(env.now.run q.finish).1, (env.now.run q.finish).2, []⟩ := rfl
  have hrecord : (q.after.enter .persisting).store.record env.traced.documents (q.mark value)
      (env.now.run q.finish).2 = ⟨(outcome, store), t, xs⟩ := by
    rw [hstore]
    exact h
  rw [← List.nil_append xs, ← List.append_nil ([] ++ xs), List.append_assoc]
  cases outcome with
  | error e => exact Traced.bind_of hnow (Traced.bind_of hrecord rfl)
  | ok u => exact Traced.bind_of hnow (Traced.bind_of hrecord rfl)

/-- A cycle that goes on to its max-value plan ends at that plan, at its answer, or at the mark. -/
lemma exit_of_maxCall (q : MaxCall env c s) : Exit env c s (tryPoll env.traced c s) := by
  have hrun := run_traced_of_planned q
  cases hreply : q.reply with
  | error e =>
    have hsettle : q.settle = pure (.error (.execution q.plan.queryText e), q.after) := by
      rw [MaxCall.settle, hreply]
    rw [hsettle, Traced.pure_apply, List.append_nil] at hrun
    rw [tryPoll_of_run hrun]
    exact .maxRefused q hreply
  | ok a =>
    cases hvalue : Engine.maxValue a.rows with
    | error e =>
      have hsettle : q.settle = pure (.error (.malformedMaxValue q.plan.queryText e), q.after) := by
        rw [MaxCall.settle, hreply]
        simp only [hvalue]
      rw [hsettle, Traced.pure_apply, List.append_nil] at hrun
      rw [tryPoll_of_run hrun]
      exact .malformed q hreply hvalue
    | ok value =>
      have hsettle : q.settle = persist env.traced q.result.rows value q.after := by
        rw [MaxCall.settle, hreply]
        simp only [hvalue]
      rcases hrecord : q.recording value with ⟨⟨outcome, store⟩, t, xs⟩
      rw [hsettle, persist_traced q hrecord] at hrun
      rw [tryPoll_of_run hrun]
      cases outcome with
      | error e => exact .unrecorded q hreply hvalue hrecord
      | ok u => exact .recorded q hreply hvalue hrecord

/-- A cycle that has its row plan executed ends at that plan, at its rows, or goes on. -/
lemma exit_of_rowCall (q : RowCall env c s) : Exit env c s (tryPoll env.traced c s) := by
  have hrun := run_traced q
  cases hanswer : q.answer with
  | error e =>
    rw [rest_of_refused q hanswer, Traced.pure_apply, List.append_nil] at hrun
    rw [tryPoll_of_run hrun]
    exact .rowsRefused q hanswer
  | ok r =>
    by_cases hrows : r.rows = []
    · rw [rest_of_drained q hanswer hrows, Traced.pure_apply, List.append_nil] at hrun
      rw [tryPoll_of_run hrun]
      exact .drained q hanswer hrows
    · cases hplan : q.after.rewriter.maxPlan with
      | none =>
        rw [rest_of_unconstrained q hanswer hrows hplan, Traced.pure_apply,
          List.append_nil] at hrun
        rw [tryPoll_of_run hrun]
        exact .unconstrained q hanswer hrows hplan
      | some plan =>
        exact exit_of_maxCall
          { q with
            result := r
            answered := hanswer
            rows_ne_nil := hrows
            plan := plan
            planned := hplan
            reply := ((env.engine.execute plan (some r.token)).run q.world).1
            finish := ((env.engine.execute plan (some r.token)).run q.world).2
            asked := rfl }

/-- Every cycle ends in one of the ways listed. -/
theorem exit_tryPoll (env : Surroundings (StateM σ)) (c : Cycle) (s : σ) :
    Exit env c s (tryPoll env.traced c s) := by
  rcases hret : c.retrieval env s with ⟨⟨result, d⟩, t, xs⟩
  cases result with
  | error e =>
    rw [tryPoll_of_run (run_of_unretrieved hret)]
    exact .unretrieved hret
  | ok previous =>
    exact exit_of_rowCall
      { previous := previous
        job := d
        start := t
        calls := xs
        retrieved := hret
        answer := ((env.engine.execute (d.rowPlan previous) none).run t).1
        world := ((env.engine.execute (d.rowPlan previous) none).run t).2
        executed := rfl }

end Stages

/-! ### What lasts through a cycle -/

/-- What every call of a cycle leaves true of the world. -/
structure Lasting (env : Surroundings (StateM σ)) (P : σ → Prop) : Prop where
  execute : ∀ plan point s, P s → P ((env.engine.execute plan point).run s).2
  read : ∀ uri s, P s → P ((env.documents.read uri).run s).2
  write : ∀ location body s, P s → P ((env.documents.write location body).run s).2
  clock : ∀ s, P s → P (env.now.run s).2

section Lasting

variable {env : Surroundings (StateM σ)} {P : σ → Prop} {c : Cycle} {s : σ}

lemma Retrieved.lasts (hP : Lasting env P) {r : Traced.Run σ Retrieval} (h : Retrieved env c s r)
    (hs : P s) : P r.world := by
  cases h with
  | unasked hk => exact hs
  | remembered hk hl => exact hs
  | @read hk l hl answer t hread =>
    have hnext := hP.read l.uri s hs
    rwa [hread] at hnext

lemma RowCall.lasts (hP : Lasting env P) (q : RowCall env c s) (hs : P s) : P q.world := by
  have hnext := hP.execute (q.job.rowPlan q.previous) none q.start (q.retrieved_cases.lasts hP hs)
  rwa [q.executed] at hnext

lemma MaxCall.lasts (hP : Lasting env P) (q : MaxCall env c s) (hs : P s) : P q.finish := by
  have hnext := hP.execute q.plan (some q.result.token) q.world (q.toRowCall.lasts hP hs)
  rwa [q.asked] at hnext

lemma Recording.lasts (hP : Lasting env P) {store : Watermark.Store} {mark : Mark}
    {r : Traced.Run σ Record} (h : Recording env store mark s r) (hs : P s) : P r.world := by
  cases h with
  | kept hl => exact hs
  | @written l hl t hwrite =>
    have hnext := hP.write l (store.documentOf mark).toJson s hs
    rwa [hwrite] at hnext
  | @refused l hl t e hwrite =>
    have hnext := hP.write l (store.documentOf mark).toJson s hs
    rwa [hwrite] at hnext

/-- What every call leaves true, a cycle leaves true. -/
theorem Exit.lasts (hP : Lasting env P) {r : Traced.Run σ Outcome} (h : Exit env c s r)
    (hs : P s) : P r.world := by
  cases h with
  | unretrieved h =>
    have hretrieved := retrieved_retrieval env c s
    rw [h] at hretrieved
    exact hretrieved.lasts hP hs
  | rowsRefused q h => exact q.lasts hP hs
  | drained q h hrows => exact q.lasts hP hs
  | unconstrained q h hrows hplan => exact q.lasts hP hs
  | maxRefused q h => exact q.lasts hP hs
  | malformed q h hvalue => exact q.lasts hP hs
  | unrecorded q h hvalue hrecord =>
    exact (q.recording_cases hrecord).lasts hP (hP.clock q.finish (q.lasts hP hs))
  | recorded q h hvalue hrecord =>
    exact (q.recording_cases hrecord).lasts hP (hP.clock q.finish (q.lasts hP hs))

end Lasting

end Cycle

end Tidemark
