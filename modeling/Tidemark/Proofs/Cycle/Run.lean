import Tidemark.Proofs.Cycle.Exit

/-!
# Runs of a job

A run polls a job again and again.  Before any poll the job may be started anew: then a job of the
same description (`Description.start`) makes the poll, and whatever the old one remembered is lost.
A run is the list of the moments at which its polls begin (`moments`); its results and its calls
are those of its polls, in order (`results_polls`, `exchanges_polls`), and what holds at first and
is kept by every poll holds at every moment (`forall_moments`).
-/

namespace Tidemark.Cycle

/-! ### What a job is built from -/

/-- The description of a job: its query, its constraint, and where and for which column its
watermark is stored. -/
structure Description where
  base : Query.Base
  constraint : Option Query.Constraint
  location : Option Storage.Location
  column : String

/-- The job that is built from a description. -/
def Description.start (d : Description) : Cycle :=
  new (.new d.base d.constraint) ⟨d.location, .empty d.column⟩

/-- The description of a job. -/
def description (c : Cycle) : Description :=
  ⟨c.rewriter.base, c.rewriter.constraint, c.store.location, c.store.current.column⟩

@[simp] lemma description_begin (c : Cycle) : c.begin.description = c.description :=
  rfl

@[simp] lemma description_enter (c : Cycle) (p : Phase) :
    (c.enter p).description = c.description := by
  simp [description]

@[simp] lemma description_reading (c : Cycle) (previous : Option String) :
    (c.reading previous).description = c.description := by
  simp [description]

/-- A store that keeps its location and its column keeps the description of its job. -/
lemma description_with_store (c : Cycle) {store : Watermark.Store}
    (hlocation : store.location = c.store.location)
    (hcolumn : store.current.column = c.store.current.column) :
    { c with store := store }.description = c.description := by
  simp only [description, hlocation, hcolumn]

lemma description_underway {c : Cycle} {store : Watermark.Store}
    (hlocation : store.location = c.store.location)
    (hcolumn : store.current.column = c.store.current.column) :
    (c.underway store).description = c.description := by
  simp only [description, store_underway, rewriter_underway, hlocation, hcolumn]

/-- A job with a constraint is constrained. -/
lemma isConstrained_of_constraint {c : Cycle} {k : Query.Constraint}
    (hk : c.rewriter.constraint = some k) : c.rewriter.isConstrained = true := by
  rw [Query.Rewriter.isConstrained, hk]
  rfl

section Step

variable {σ : Type} {env : Surroundings (StateM σ)} {c : Cycle} {s : σ}

/-- A retrieval keeps the description of the job. -/
lemma Retrieved.description_eq {r : Traced.Run σ Retrieval}
    (h : Retrieved env c s r) : r.value.2.description = c.description := by
  cases h with
  | unasked hk => rw [description_underway rfl rfl]
  | remembered hk hl => rw [description_underway rfl rfl]
  | read hk hl hread => rw [description_underway (by simp) (by simp)]

/-- Recording a mark keeps the location and the column of the store. -/
lemma Recording.keeps {store : Watermark.Store} {mark : Mark}
    {r : Traced.Run σ Record}
    (h : Recording env store mark s r) :
    r.value.2.location = store.location ∧ r.value.2.current.column = store.current.column := by
  cases h <;> exact ⟨rfl, rfl⟩

namespace RowCall

/-- The job that has its row plan executed is the job of the cycle. -/
lemma description_job (q : RowCall env c s) : q.job.description = c.description :=
  q.retrieved_cases.description_eq

@[simp] lemma description_after (q : RowCall env c s) : q.after.description = c.description := by
  rw [RowCall.after, description_reading, q.description_job]

/-- The constraint of a job does not change in a cycle. -/
lemma constraint_after (q : RowCall env c s) :
    q.after.rewriter.constraint = c.rewriter.constraint :=
  congrArg Description.constraint q.description_after

/-- There is a max-value plan exactly if the job has a constraint. -/
lemma maxPlan_eq_none_iff (q : RowCall env c s) :
    q.after.rewriter.maxPlan = none ↔ c.rewriter.isConstrained = false := by
  rw [Query.Rewriter.maxPlan_eq_none_iff, Query.Rewriter.isConstrained, q.constraint_after,
    Query.Rewriter.isConstrained]

end RowCall

/-- A job with a max-value plan has a constraint. -/
lemma MaxCall.isConstrained (q : MaxCall env c s) : c.rewriter.isConstrained = true := by
  have hplan : q.toRowCall.after.rewriter.maxPlan ≠ none := by
    rw [RowCall.after, q.planned]
    exact Option.some_ne_none q.plan
  rw [ne_eq, q.toRowCall.maxPlan_eq_none_iff] at hplan
  exact Bool.not_eq_false _ ▸ hplan

/-- Recording a mark keeps the description of the job. -/
lemma MaxCall.description_marked (q : MaxCall env c s) {value : String}
    {outcome : Except Watermark.StoreError Unit} {store : Watermark.Store} {t : σ}
    {xs : List Exchange} (h : q.recording value = ⟨(outcome, store), t, xs⟩) :
    (q.marked store).description = c.description := by
  obtain ⟨hlocation, hcolumn⟩ := (q.recording_cases h).keeps
  have hstore : (q.after.enter .persisting).store = q.job.store := by
    simp [MaxCall.after, RowCall.after]
  rw [← hstore] at hlocation hcolumn
  rw [MaxCall.marked, description_with_store _ hlocation hcolumn, description_enter,
    MaxCall.after, description_enter, q.toRowCall.description_after]

/-- However a cycle ends, it keeps the description of its job. -/
lemma Exit.description_eq {r : Traced.Run σ Outcome} (h : Exit env c s r) :
    r.value.2.description = c.description := by
  cases h with
  | unretrieved h =>
    have hretrieved := retrieved_retrieval env c s
    rw [h] at hretrieved
    rw [description_enter, hretrieved.description_eq]
  | rowsRefused q h => rw [description_enter, q.description_after]
  | drained q h hrows => rw [description_enter, q.description_after]
  | unconstrained q h hrows hplan => rw [description_enter, q.description_after]
  | maxRefused q h => rw [description_enter, MaxCall.after, description_enter, q.description_after]
  | malformed q h hvalue =>
    rw [description_enter, MaxCall.after, description_enter, q.description_after]
  | unrecorded q h hvalue hrecord => rw [description_enter, q.description_marked hrecord]
  | recorded q h hvalue hrecord => rw [description_enter, q.description_marked hrecord]

/-- A cycle keeps the description of its job. -/
theorem description_tryPoll (env : Surroundings (StateM σ)) (c : Cycle) (s : σ) :
    (tryPoll env.traced c s).value.2.description = c.description :=
  (exit_tryPoll env c s).description_eq

/-! ### The number of a cycle -/

@[simp] lemma count_underway (c : Cycle) (store : Watermark.Store) :
    (c.underway store).count = c.count + 1 :=
  count_enter c.begin .building

/-- A retrieval belongs to the next cycle. -/
lemma Retrieved.count_eq {r : Traced.Run σ Retrieval} (h : Retrieved env c s r) :
    r.value.2.count = c.count + 1 := by
  cases h <;> exact count_underway c _

lemma RowCall.count_after (q : RowCall env c s) : q.after.count = c.count + 1 := by
  rw [RowCall.after, reading, count_enter]
  exact q.retrieved_cases.count_eq

lemma MaxCall.count_after (q : MaxCall env c s) : q.after.count = c.count + 1 := by
  rw [MaxCall.after, count_enter, q.toRowCall.count_after]

lemma MaxCall.count_marked (q : MaxCall env c s) (store : Watermark.Store) :
    (q.marked store).count = c.count + 1 :=
  (count_enter q.after .persisting).trans q.count_after

/-- However a cycle ends, it is the next one. -/
lemma Exit.count_eq {r : Traced.Run σ Outcome} (h : Exit env c s r) :
    r.value.2.count = c.count + 1 := by
  cases h with
  | unretrieved h =>
    have hretrieved := retrieved_retrieval env c s
    rw [h] at hretrieved
    rw [count_enter, hretrieved.count_eq]
  | rowsRefused q h => rw [count_enter, q.count_after]
  | drained q h hrows => rw [count_enter, q.count_after]
  | unconstrained q h hrows hplan => rw [count_enter, q.count_after]
  | maxRefused q h => rw [count_enter, q.count_after]
  | malformed q h hvalue => rw [count_enter, q.count_after]
  | unrecorded q h hvalue hrecord => rw [count_enter, q.count_marked]
  | recorded q h hvalue hrecord => rw [count_enter, q.count_marked]

/-- Every cycle has the next number, whatever becomes of it. -/
theorem count_tryPoll (env : Surroundings (StateM σ)) (c : Cycle) (s : σ) :
    (tryPoll env.traced c s).value.2.count = c.count + 1 :=
  (exit_tryPoll env c s).count_eq

end Step

/-! ### Runs -/

/-- What a poll gives. -/
abbrev Result := Except CycleError (List Engine.Row)

/-- The rows that a poll hands on. -/
def handedOn : Result → List Engine.Row
  | .ok rows => rows
  | .error _ => []

/-- The job that makes a poll: the job at hand, or one built anew from its description. -/
def polling (anew : Bool) (c : Cycle) : Cycle :=
  if anew then c.description.start else c

@[simp] lemma description_polling (anew : Bool) (c : Cycle) :
    (c.polling anew).description = c.description := by
  cases anew <;> rfl

/-- Polls a job once for every flag; where a flag is set the job is built anew first. -/
def polls {m : Type → Type} [Monad m] (env : Surroundings m) :
    List Bool → Cycle → m (List Result × Cycle)
  | [], c => return ([], c)
  | anew :: flags, c => do
    let (result, d) ← tryPoll env (c.polling anew)
    let (results, e) ← polls env flags d
    return (result :: results, e)

variable {σ : Type} (env : Surroundings (StateM σ))

/-- The job and the world at the beginning of each poll of a run. -/
def moments : List Bool → Cycle → σ → List (Cycle × σ)
  | [], _, _ => []
  | anew :: flags, c, s =>
    let r := tryPoll env.traced (c.polling anew) s
    (c.polling anew, s) :: moments flags r.value.2 r.world

/-- The poll that begins at a moment. -/
def pollAt (p : Cycle × σ) : Traced.Run σ Outcome :=
  tryPoll env.traced p.1 p.2

@[simp] lemma length_moments (flags : List Bool) (c : Cycle) (s : σ) :
    (moments env flags c s).length = flags.length := by
  induction flags generalizing c s with
  | nil => rfl
  | cons anew flags ih => simp only [moments, List.length_cons, ih]

/-- The first poll of a run and the polls after it. -/
lemma polls_cons (anew : Bool) (flags : List Bool) (c : Cycle) (s : σ) :
    polls env.traced (anew :: flags) c s =
      let r := tryPoll env.traced (c.polling anew) s
      let rs := polls env.traced flags r.value.2 r.world
      ⟨(r.value.1 :: rs.value.1, rs.value.2), rs.world, r.exchanges ++ rs.exchanges⟩ := by
  change Traced.Run.mk _ _ ((tryPoll env.traced (c.polling anew) s).exchanges ++ (_ ++ [])) = _
  rw [List.append_nil]
  rfl

/-- The results of a run are those of its polls. -/
theorem results_polls (flags : List Bool) (c : Cycle) (s : σ) :
    (polls env.traced flags c s).value.1
      = (moments env flags c s).map fun p => (pollAt env p).value.1 := by
  induction flags generalizing c s with
  | nil => rfl
  | cons anew flags ih =>
    simp only [polls_cons, moments, List.map_cons, ih]
    rfl

/-- The calls of a run are the calls of its polls, one block after the other. -/
theorem exchanges_polls (flags : List Bool) (c : Cycle) (s : σ) :
    (polls env.traced flags c s).exchanges
      = (moments env flags c s).flatMap fun p => (pollAt env p).exchanges := by
  induction flags generalizing c s with
  | nil => rfl
  | cons anew flags ih =>
    simp only [polls_cons, moments, List.flatMap_cons, ih]
    rfl

/-- What holds of a job at first, is kept by every poll and holds of a job built anew, holds at
every moment of a run. -/
theorem forall_moments {I : Cycle → σ → Prop} (hstart : ∀ c s, I c s → I c.description.start s)
    (hpoll : ∀ c s, I c s → I (tryPoll env.traced c s).value.2 (tryPoll env.traced c s).world)
    {flags : List Bool} {c : Cycle} {s : σ} (h : I c s) :
    ∀ p ∈ moments env flags c s, I p.1 p.2 := by
  induction flags generalizing c s with
  | nil => simp [moments]
  | cons anew flags ih =>
    have hfirst : I (c.polling anew) s := by
      cases anew with
      | false => exact h
      | true => exact hstart c s h
    intro p hp
    rcases List.mem_cons.1 hp with rfl | hp
    · exact hfirst
    · exact ih (hpoll _ _ hfirst) p hp

/-- The polls of a run are polls of one description. -/
theorem description_of_mem_moments {flags : List Bool} {c : Cycle} {s : σ} {p : Cycle × σ}
    (hp : p ∈ moments env flags c s) : p.1.description = c.description := by
  refine forall_moments env (I := fun d _ => d.description = c.description) ?_ ?_ rfl p hp
  · intro d _ hd
    exact hd
  · intro d t hd
    rw [description_tryPoll, hd]

/-! ### A job and a world -/

/-- The constraint on the column `ID`, without a row limit. -/
def idColumn : Query.Constraint :=
  ⟨"ID", none, rfl, by simp⟩

/-- A job on the column `ID` with a stored watermark. -/
def authors : Description :=
  ⟨.text "op.fromView('demo', 'authors')", some idColumn, some ⟨"/authors.json", "", []⟩, "ID"⟩

/-- Surroundings with one document, in which every plan gives one row with the value 6. -/
def oneRow : Surroundings (StateM (Option String)) where
  engine.execute _ point :=
    pure (.ok ⟨[⟨[(Query.Rewriter.maxField, .string "6")]⟩], point.getD ⟨7⟩⟩)
  documents.read _ := do return .ok (← get)
  documents.write _ body := do
    set (some body.compact)
    return .ok ()
  now := pure ⟨2024, 5, 1, 0, 0, 0, 0⟩

end Tidemark.Cycle
