import Tidemark.Proofs.Cycle.Standing
import Tidemark.Proofs.Engine.ByText

/-!
# Polls over a table that does not change

While the rows of a table stay what they are (`Still`), a poll depends only on the watermark that
its job finds (`Standing`).  It is refused, and then a call of it has failed; or it finds nothing
above the watermark; or it hands on a batch, and then the job finds the greatest value of the batch,
sanitized, for its next watermark (`Turn`, `Standing.turn`).  What these two kinds of polls keep of
the batches so far and the watermark, a whole run keeps (`Standing.polls_induction`).
-/

namespace Tidemark.Cycle

open Engine (Row Collation Ranked Batch Evaluates pageSteps greatestSteps)

variable {σ : Type} {o : Collation} {column : String} {rows : List Row}

/-- What a job meets with while its table does not change: an engine that reads the steps of a plan
and evaluates them over the same rows at every point in time, a backend that keeps the document that
is written, and a clock that shows dates that exist.  Any call to the engine or the backend may
fail, and then the document stays as it is. -/
structure Still (env : Surroundings (StateM σ)) (d : Description) (o : Collation) (rows : List Row)
    (document : σ → Option String) : Prop extends Archived env d.location document where
  answers : ∀ plan point s steps, d.base.Reads plan steps → ∀ answer,
    ((env.engine.execute plan point).run s).1 = .ok answer → Evaluates o steps rows answer.rows

/-- What a poll makes of a job that finds a watermark. -/
inductive Turn (d : Description) (o : Collation) (column : String) (limit : Option UInt64)
    (rows : List Row) (document : σ → Option String) (watermark : Option String)
    (r : Traced.Run σ Outcome) : Prop
  /-- The poll fails, and so has a call of it. -/
  | refused {e : CycleError} (hresult : r.value.1 = .error e)
      (hfailed : ∃ x ∈ r.exchanges, x.Failed)
      (hstanding : Standing d document watermark r.value.2 r.world)
  /-- There are no rows above the watermark. -/
  | drained (hresult : r.value.1 = .ok [])
      (hpage : Evaluates o (pageSteps column watermark limit) rows [])
      (hstanding : Standing d document watermark r.value.2 r.world)
  /-- A batch is handed on, and its greatest value becomes the watermark. -/
  | advanced {page : List Row} {v : String} (hresult : r.value.1 = .ok page)
      (hbatch : Batch o column watermark limit rows page v)
      (hstanding : Standing d document (some (Query.sanitize v)) r.value.2 r.world)

section Poll

variable {env : Surroundings (StateM σ)} {d : Description} {document : σ → Option String}
  {watermark : Option String} {c : Cycle} {s : σ} {k : Query.Constraint}

/-- A cycle reads the page above the watermark. -/
lemma RowCall.evaluates (hstill : Still env d o rows document)
    (hstanding : Standing d document watermark c s) (hk : d.constraint = some k)
    (hcolumn : d.base.name k.column = column) (q : RowCall env c s) {answer : Engine.QueryResult}
    (h : q.answer = .ok answer) :
    Evaluates o (pageSteps column watermark k.rowLimit) rows answer.rows := by
  have hreads := hstanding.reads_rowPlan hstill.toArchived hk hcolumn q
  refine hstill.answers _ none q.start _ hreads answer ?_
  rw [q.executed, h]

/-- A cycle that goes on to its max-value plan has read a batch, and the answer has its greatest
value. -/
lemma MaxCall.exists_batch (hstill : Still env d o rows document)
    (hranked : Ranked o column rows) (hstanding : Standing d document watermark c s)
    (hk : d.constraint = some k) (hcolumn : d.base.name k.column = column)
    (q : MaxCall env c s) {a : Engine.QueryResult} (ha : q.reply = .ok a) :
    ∃ v, Batch o column watermark k.rowLimit rows q.result.rows v ∧
      Engine.maxValue a.rows = .ok (Query.sanitize v) := by
  have hpage : Evaluates o (pageSteps column watermark k.rowLimit) rows q.result.rows :=
    q.toRowCall.evaluates hstill hstanding hk hcolumn q.answered
  have hreads := hstanding.reads_maxPlan hstill.toArchived hk hcolumn q
  have hout : Evaluates o (pageSteps column watermark k.rowLimit
      ++ greatestSteps Query.Rewriter.maxField column) rows a.rows := by
    refine hstill.answers _ (some q.result.token) q.world _ hreads a ?_
    rw [q.asked, ha]
  obtain ⟨g, v, hrows, hv, hbatch⟩ :=
    Engine.batch_of_evaluates hranked hpage q.rows_ne_nil hout
  refine ⟨v, hbatch, ?_⟩
  rw [hrows]
  exact maxValue_cell hv

/-- A poll that fails is refused, because the answer to a max-value plan always has a value. -/
lemma Exit.turn_of_error (hstill : Still env d o rows document) (hranked : Ranked o column rows)
    (hstanding : Standing d document watermark c s) (hk : d.constraint = some k)
    (hcolumn : d.base.name k.column = column) {r : Traced.Run σ Outcome} (h : Exit env c s r)
    {e : CycleError} (herror : r.value.1 = .error e) :
    Turn d o column k.rowLimit rows document watermark r := by
  rcases h.failed_or_malformed hstill.toArchived hstanding.location_eq
    (hstanding.isConstrained hk) hstanding.finds herror with hfailed | ⟨q, a, f, ha, hvalue⟩
  · have hnot : ¬ ∃ rows, Delivers c rows r := not_delivers_of_error herror
    exact .refused herror hfailed (h.standing hstill.toArchived hstanding hnot)
  · obtain ⟨v, -, hv⟩ := q.exists_batch hstill hranked hstanding hk hcolumn ha
    rw [hvalue] at hv
    cases hv

/-- However a poll ends, it is a turn. -/
theorem Exit.turn (hstill : Still env d o rows document) (hranked : Ranked o column rows)
    (hstanding : Standing d document watermark c s) (hk : d.constraint = some k)
    (hcolumn : d.base.name k.column = column) {r : Traced.Run σ Outcome} (h : Exit env c s r) :
    Turn d o column k.rowLimit rows document watermark r := by
  have hexit : Exit env c s r := h
  cases h with
  | unretrieved h => exact hexit.turn_of_error hstill hranked hstanding hk hcolumn rfl
  | rowsRefused q h => exact hexit.turn_of_error hstill hranked hstanding hk hcolumn rfl
  | drained q h hnil =>
    have hpage := q.evaluates hstill hstanding hk hcolumn h
    rw [hnil] at hpage
    exact .drained rfl hpage (hexit.standing hstill.toArchived hstanding (not_delivers_of_nil rfl))
  | unconstrained q h hne hplan =>
    rw [q.maxPlan_eq_none_iff, hstanding.isConstrained hk] at hplan
    cases hplan
  | maxRefused q h => exact hexit.turn_of_error hstill hranked hstanding hk hcolumn rfl
  | malformed q h hvalue => exact hexit.turn_of_error hstill hranked hstanding hk hcolumn rfl
  | unrecorded q h hvalue hrecord =>
    exact hexit.turn_of_error hstill hranked hstanding hk hcolumn rfl
  | recorded q h hvalue hrecord =>
    obtain ⟨v, hbatch, hv⟩ := q.exists_batch hstill hranked hstanding hk hcolumn h
    obtain rfl := Except.ok.inj (hvalue.symm.trans hv)
    exact .advanced rfl hbatch (q.standing_recorded hstill.toArchived hstanding hvalue hrecord)

/-- **A poll over a table that does not change** depends on the watermark that its job finds. -/
theorem Standing.turn (hstill : Still env d o rows document) (hranked : Ranked o column rows)
    (hk : d.constraint = some k) (hcolumn : d.base.name k.column = column)
    (hstanding : Standing d document watermark c s) :
    Turn d o column k.rowLimit rows document watermark (tryPoll env.traced c s) :=
  (exit_tryPoll env c s).turn hstill hranked hstanding hk hcolumn

/-- **What polls keep, a run keeps.**  What holds of some batches and a watermark is to be kept by a
poll that hands on nothing and by a poll that hands on a batch.  Then it holds after any number of
polls, by induction on these, of all the batches that they have handed on and of the watermark that
the job finds. -/
theorem Standing.polls_induction (hstill : Still env d o rows document)
    (hranked : Ranked o column rows) (hk : d.constraint = some k)
    (hcolumn : d.base.name k.column = column) {I : List (List Row) → Option String → Prop}
    (hidle : ∀ batches w, I batches w → I (batches ++ [[]]) w)
    (hbatch : ∀ batches w page v, I batches w → Batch o column w k.rowLimit rows page v →
      I (batches ++ [page]) (some (Query.sanitize v)))
    {flags : List Bool} (hflags : d.location = none → ∀ anew ∈ flags, anew = false)
    {batches : List (List Row)} (hI : I batches watermark)
    (hstanding : Standing d document watermark c s) :
    let r := Cycle.polls env.traced flags c s
    ∃ w, I (batches ++ r.value.1.map handedOn) w ∧ Standing d document w r.value.2 r.world := by
  induction flags generalizing batches watermark c s with
  | nil =>
    refine ⟨watermark, ?_, hstanding⟩
    change I (batches ++ []) watermark
    rwa [List.append_nil]
  | cons anew flags ih =>
    have hfirst : Standing d document watermark (c.polling anew) s :=
      hstanding.polling fun hnone => hflags hnone anew List.mem_cons_self
    have hlater : d.location = none → ∀ anew ∈ flags, anew = false :=
      fun hnone a ha => hflags hnone a (List.mem_cons_of_mem anew ha)
    rw [polls_cons]
    dsimp only
    rw [List.map_cons, List.append_cons]
    cases hfirst.turn hstill hranked hk hcolumn with
    | refused hresult hfailed hnext =>
      rw [hresult]
      exact ih hlater (hidle _ _ hI) hnext
    | drained hresult hpage hnext =>
      rw [hresult]
      exact ih hlater (hidle _ _ hI) hnext
    | advanced hresult hpage hnext =>
      rw [hresult]
      exact ih hlater (hbatch _ _ _ _ hI hpage) hnext

end Poll

/-! ### An engine that knows some answers -/

/-- A pipeline without steps. -/
def pipeline : Json :=
  .object [("$optic", .object [("args", .array [])])]

/-- A job on the column `ID` that reads one row at a time and remembers its watermark. -/
def oneByOne : Description :=
  ⟨.tree pipeline rfl, some ⟨"ID", some 1, idColumn.column_not_blank,
    Query.Constraint.positiveLimit_ne_some_zero (some 1)⟩, none, "ID"⟩

/-- Surroundings in which the engine knows the answers to some lists of steps and refuses all
others. -/
def knowing (answers : List (List Query.Step × List Row)) : Surroundings (StateM Unit) where
  engine.execute plan point :=
    match (Query.Base.stepsBeyond pipeline plan).bind fun steps => answers.lookup steps with
    | none => pure (.error .transport)
    | some rows => pure (.ok ⟨rows, point.getD ⟨7⟩⟩)
  documents.read _ := pure (.ok none)
  documents.write _ _ := pure (.ok ())
  now := pure ⟨2024, 5, 1, 0, 0, 0, 0⟩

/-- If the answers are those of an engine that compares texts, the table does not change. -/
lemma still_knowing {answers : List (List Query.Step × List Row)} {rows : List Row}
    (h : ∀ p ∈ answers, Engine.evaluate .byText p.1 rows = p.2) :
    Still (knowing answers) oneByOne .byText rows fun _ => none where
  read _ _ := rfl
  clock _ := rfl
  refused _ _ _ _ _ h := by cases h
  found _ h := by cases h
  stored _ h := by cases h
  valid _ := by
    change Time.Instant.Valid ⟨2024, 5, 1, 0, 0, 0, 0⟩
    decide
  execute plan point s := rfl
  answers plan point s steps hreads answer hanswer := by
    simp only [knowing, hreads.stepsBeyond_eq, Option.bind_some] at hanswer
    cases hlookup : answers.lookup steps with
    | none =>
      rw [hlookup] at hanswer
      cases hanswer
    | some found =>
      rw [hlookup] at hanswer
      obtain rfl := Except.ok.inj hanswer
      obtain ⟨before, later, hsplit, -⟩ := List.lookup_eq_some_iff.1 hlookup
      have hmem : (steps, found) ∈ answers := by
        rw [hsplit]
        simp
      have hfound : Engine.evaluate .byText steps rows = found := h _ hmem
      have hevaluates := Engine.evaluates_evaluate Collation.ordered_byText steps rows
      rwa [hfound] at hevaluates

end Tidemark.Cycle
