import Tidemark.Proofs.Cycle.Run
import Tidemark.Proofs.Watermark.DocumentText

/-!
# When the watermark advances

A cycle of a constrained job that hands on rows has recorded their greatest value, by one write of
the document if its store is durable (`Advanced`).  A cycle that ends in any other way has written
nothing (`Store.Kept`): a store without a location is what it was, a store with one is what it was
or has taken over the document that the cycle read, and the text of the document has not changed.
Here a write that fails is taken to leave the document as it is, and a call that does not write,
too (`Undisturbed`).
-/

namespace Tidemark

/-! ### What becomes of a store -/

namespace Watermark.Store

/-- The body of a document that holds a mark on a column: four texts, in key order. -/
def bodyOf (column : String) (mark : Mark) : Json :=
  .object [("constraintColumn", .string column), ("lastUpdated", .string mark.observedAt.render),
    ("lastValue", .string mark.value), ("rowCount", .string (toString mark.rowCount.toNat))]

lemma toJson_documentOf (store : Store) (mark : Mark) :
    (store.documentOf mark).toJson = bodyOf store.current.column mark :=
  (store.documentOf mark).toJson_eq

/-- A mark is recorded: the store holds it, and if the store has a location, the calls have written
the body with the mark there, once. -/
structure Records (store : Store) (mark : Mark) (store' : Store) (xs : List Exchange) : Prop where
  store_eq : store' = ⟨store.location, ⟨store.current.column, some mark⟩⟩
  writes : writeCalls xs
    = store.location.toList.map fun l => ⟨l, bodyOf store.current.column mark, .ok ()⟩

/-- No document is written, and the store is what it was or what it has read. -/
structure Kept (store store' : Store) (xs : List Exchange) : Prop where
  unwritten : ∀ w ∈ writeCalls xs, ∃ e, w.answer = .error e
  remembered : store.location = none → store' = store
  durable : ∀ l, store.location = some l → store' = store ∨
    ∃ text w, Exchange.read l.uri (.ok (some text)) ∈ xs ∧ ofText text = .ok w ∧
      store' = { store with current := w }

/-- Calls that write nothing do not change what became of a store. -/
lemma Kept.append {store store' : Store} {xs ys : List Exchange} (h : store.Kept store' xs)
    (hys : ∀ w ∈ writeCalls ys, ∃ e, w.answer = .error e) : store.Kept store' (xs ++ ys) := by
  refine ⟨?_, h.remembered, ?_⟩
  · intro w hw
    rw [writeCalls_append] at hw
    rcases List.mem_append.1 hw with hw | hw
    · exact h.unwritten w hw
    · exact hys w hw
  · intro l hl
    rcases h.durable l hl with hsame | ⟨text, w, hread, hw⟩
    · exact Or.inl hsame
    · exact Or.inr ⟨text, w, List.mem_append_left ys hread, hw⟩

/-- What a store takes over is the watermark in the document that it loads. -/
lemma load_eq_or (store : Store) (uri : String)
    (answer : Except Storage.BackendError (Option String)) :
    (store.load uri answer).2 = store ∨
      ∃ text w, answer = .ok (some text) ∧ ofText text = .ok w ∧
        (store.load uri answer).2 = { store with current := w } := by
  rcases answer with e | _ | text
  · exact Or.inl rfl
  · exact Or.inl rfl
  · cases hjudge : judge store.current.column uri text with
    | error e =>
      left
      simp only [load, hjudge]
    | ok w =>
      right
      refine ⟨text, w, rfl, (judge_eq_ok_iff.1 hjudge).1, ?_⟩
      simp only [load, hjudge]

end Watermark.Store

namespace Cycle

variable {σ : Type} {env : Surroundings (StateM σ)} {c : Cycle} {s : σ}

/-- A retrieval writes nothing. -/
lemma Retrieved.kept {r : Traced.Run σ Retrieval}
    (h : Retrieved env c s r) : c.store.Kept r.value.2.store r.exchanges := by
  cases h with
  | unasked hk => exact ⟨by simp, fun _ => rfl, fun _ _ => Or.inl rfl⟩
  | remembered hk hl => exact ⟨by simp, fun _ => rfl, fun _ _ => Or.inl rfl⟩
  | @read hk l hl answer t hread =>
    refine ⟨by simp, fun hnone => by simp [hnone] at hl, ?_⟩
    intro l' hl'
    obtain rfl : l = l' := Option.some.inj (hl.symm.trans hl')
    rcases c.store.load_eq_or l.uri answer with hsame | ⟨text, w, rfl, hw, hload⟩
    · exact Or.inl hsame
    · exact Or.inr ⟨text, w, List.mem_singleton_self _, hw, hload⟩

/-- A mark that is not refused is recorded. -/
lemma Recording.records {store : Watermark.Store} {mark : Mark}
    {r : Traced.Run σ Record}
    (h : Recording env store mark s r) (hok : r.value.1 = .ok ()) :
    store.Records mark r.value.2 r.exchanges := by
  cases h with
  | kept hl => exact ⟨rfl, by simp [hl]⟩
  | written hl hwrite => exact ⟨rfl, by simp [hl, Watermark.Store.toJson_documentOf]⟩
  | refused hl hwrite => cases hok

/-- A mark that is refused is not written, and the store stays as it was. -/
lemma Recording.refuses {store : Watermark.Store} {mark : Mark}
    {r : Traced.Run σ Record}
    (h : Recording env store mark s r) {e : Watermark.StoreError} (herror : r.value.1 = .error e) :
    r.value.2 = store ∧ ∀ w ∈ writeCalls r.exchanges, ∃ e, w.answer = .error e := by
  cases h with
  | kept hl => cases herror
  | written hl hwrite => cases herror
  | refused hl hwrite =>
    refine ⟨rfl, ?_⟩
    intro w hw
    rw [writeCalls_write] at hw
    rw [List.mem_singleton.1 hw]
    exact ⟨_, rfl⟩

namespace RowCall

/-- Up to the answer to the row plan nothing is written. -/
lemma kept (q : RowCall env c s) : c.store.Kept q.after.store q.exchanges := by
  rw [q.store_after]
  exact q.retrieved_cases.kept.append (by simp)

end RowCall

namespace MaxCall

/-- Up to the answer to the max-value plan nothing is written. -/
lemma kept (q : MaxCall env c s) : c.store.Kept q.after.store q.exchanges := by
  rw [q.store_after, ← q.toRowCall.store_after]
  exact q.toRowCall.kept.append (by simp)

end MaxCall

/-! ### What becomes of the document -/

/-- A text in the world that nothing but a successful write changes. -/
structure Undisturbed (env : Surroundings (StateM σ)) (text : σ → Option String) : Prop where
  execute : ∀ plan point s, text ((env.engine.execute plan point).run s).2 = text s
  read : ∀ uri s, text ((env.documents.read uri).run s).2 = text s
  clock : ∀ s, text (env.now.run s).2 = text s
  refused : ∀ location body s e t,
    (env.documents.write location body).run s = (.error e, t) → text t = text s

section Text

variable {text : σ → Option String}

/-- A retrieval does not change the document. -/
lemma Retrieved.text_eq (hview : Undisturbed env text)
    {r : Traced.Run σ Retrieval}
    (h : Retrieved env c s r) : text r.world = text s := by
  cases h with
  | unasked hk => rfl
  | remembered hk hl => rfl
  | @read hk l hl answer t hread =>
    have hkeep := hview.read l.uri s
    rwa [hread] at hkeep

/-- A row call does not change the document. -/
lemma RowCall.text_eq (hview : Undisturbed env text) (q : RowCall env c s) :
    text q.world = text s := by
  have hstart : text q.start = text s := q.retrieved_cases.text_eq hview
  have hkeep := hview.execute (q.job.rowPlan q.previous) none q.start
  rw [q.executed] at hkeep
  exact hkeep.trans hstart

/-- A max-value call does not change the document. -/
lemma MaxCall.text_eq (hview : Undisturbed env text) (q : MaxCall env c s) :
    text q.finish = text s := by
  have hkeep := hview.execute q.plan (some q.result.token) q.world
  rw [q.asked] at hkeep
  exact hkeep.trans (q.toRowCall.text_eq hview)

/-- A mark that is refused does not change the document. -/
lemma Recording.text_eq (hview : Undisturbed env text) {store : Watermark.Store} {mark : Mark}
    {r : Traced.Run σ Record}
    (h : Recording env store mark s r) {e : Watermark.StoreError} (herror : r.value.1 = .error e) :
    text r.world = text s := by
  cases h with
  | kept hl => rfl
  | written hl hwrite => cases herror
  | refused hl hwrite => exact hview.refused _ _ _ _ _ hwrite

end Text

/-! ### The two outcomes of a cycle -/

/-- A cycle has advanced its watermark: the first answer of the engine holds the rows, the second
one their greatest value, and the mark with this value and the number of rows is recorded. -/
def Advanced (c : Cycle) (rows : List Engine.Row) (r : Traced.Run σ Outcome) : Prop :=
  ∃ first second page answer mark,
    engineCalls r.exchanges = [first, second] ∧
      first.answer = .ok page ∧ page.rows = rows ∧
      second.answer = .ok answer ∧ Engine.maxValue answer.rows = .ok mark.value ∧
      mark.rowCount = UInt64.ofNat rows.length ∧
      c.store.Records mark r.value.2.store r.exchanges

/-- A cycle hands on rows of a constrained job. -/
def Delivers (c : Cycle) (rows : List Engine.Row) (r : Traced.Run σ Outcome) : Prop :=
  r.value.1 = .ok rows ∧ rows ≠ [] ∧ c.rewriter.isConstrained = true

/-- A mark recorded after a max-value call advances the watermark. -/
lemma MaxCall.advanced (q : MaxCall env c s) {a : Engine.QueryResult} (h : q.reply = .ok a)
    {value : String} (hvalue : Engine.maxValue a.rows = .ok value) {store : Watermark.Store}
    {t : σ} {xs : List Exchange} (hrecord : q.recording value = ⟨(.ok (), store), t, xs⟩) :
    Advanced c q.result.rows
      ⟨(.ok q.result.rows, (q.marked store).enter .idle), t, q.exchanges ++ xs⟩ := by
  have hrecording := q.recording_cases hrecord
  have hcalls : engineCalls (q.exchanges ++ xs) = [⟨q.job.rowPlan q.previous, none, q.answer⟩,
      ⟨q.plan, some q.result.token, q.reply⟩] := by
    rw [engineCalls_append, q.engineCalls_exchanges, hrecording.engineCalls_eq, List.append_nil]
  refine ⟨_, _, q.result, a, q.mark value, hcalls, q.answered, rfl, h, hvalue, rfl, ?_⟩
  obtain ⟨hstore, hwrites⟩ := hrecording.records rfl
  have hjob : q.job.description = c.description := q.toRowCall.description_job
  have hlocation : q.job.store.location = c.store.location := congrArg Description.location hjob
  have hcolumn : q.job.store.current.column = c.store.current.column :=
    congrArg Description.column hjob
  refine ⟨?_, ?_⟩
  · rw [store_enter, MaxCall.marked]
    rw [hlocation, hcolumn] at hstore
    exact hstore
  · have hnone : writeCalls q.exchanges = [] := by
      rw [MaxCall.exchanges, RowCall.exchanges, writeCalls_append, writeCalls_append,
        q.retrieved_cases.writeCalls_eq]
      rfl
    rw [writeCalls_append, hnone, List.nil_append, hwrites, hlocation, hcolumn]

/-- A cycle that fails hands on nothing. -/
lemma not_delivers_of_error {r : Traced.Run σ Outcome} {e : CycleError}
    (h : r.value.1 = .error e) : ¬ ∃ rows, Delivers c rows r := by
  rintro ⟨rows, hok, -⟩
  rw [h] at hok
  cases hok

/-- A cycle without rows hands on nothing. -/
lemma not_delivers_of_nil {r : Traced.Run σ Outcome} (h : r.value.1 = .ok []) :
    ¬ ∃ rows, Delivers c rows r := by
  rintro ⟨rows, hok, hne, -⟩
  rw [h] at hok
  exact hne (Except.ok.inj hok).symm

/-- A cycle that hands on rows of a constrained job has advanced its watermark; any other has
written nothing. -/
lemma Exit.advanced_or_kept {text : σ → Option String} (hview : Undisturbed env text)
    {r : Traced.Run σ Outcome} (h : Exit env c s r) :
    (∃ rows, Delivers c rows r ∧ Advanced c rows r) ∨
      (¬ ∃ rows, Delivers c rows r) ∧ c.store.Kept r.value.2.store r.exchanges ∧
        text r.world = text s := by
  cases h with
  | @unretrieved e d t xs h =>
    have hretrieved := retrieved_retrieval env c s
    rw [h] at hretrieved
    refine Or.inr ⟨not_delivers_of_error rfl, ?_, hretrieved.text_eq hview⟩
    rw [store_enter]
    exact hretrieved.kept
  | rowsRefused q h =>
    refine Or.inr ⟨not_delivers_of_error rfl, ?_, q.text_eq hview⟩
    rw [store_enter]
    exact q.kept
  | drained q h hrows =>
    refine Or.inr ⟨not_delivers_of_nil rfl, ?_, q.text_eq hview⟩
    rw [store_enter]
    exact q.kept
  | unconstrained q h hrows hplan =>
    refine Or.inr ⟨?_, ?_, q.text_eq hview⟩
    · rintro ⟨rows, -, -, hk⟩
      exact Bool.false_ne_true ((q.maxPlan_eq_none_iff.1 hplan).symm.trans hk)
    · rw [store_enter]
      exact q.kept
  | maxRefused q h =>
    refine Or.inr ⟨not_delivers_of_error rfl, ?_, q.text_eq hview⟩
    rw [store_enter]
    exact q.kept
  | malformed q h hvalue =>
    refine Or.inr ⟨not_delivers_of_error rfl, ?_, q.text_eq hview⟩
    rw [store_enter]
    exact q.kept
  | @unrecorded q a h value hvalue e store t xs hrecord =>
    have hrecording := q.recording_cases hrecord
    obtain ⟨hstore, hwrites⟩ := hrecording.refuses rfl
    refine Or.inr ⟨not_delivers_of_error rfl, ?_, ?_⟩
    · rw [store_enter]
      have hkept := q.kept.append hwrites
      rw [q.store_after, ← show store = q.job.store from hstore] at hkept
      exact hkept
    · have hnow : text (env.now.run q.finish).2 = text q.finish := hview.clock q.finish
      exact (hrecording.text_eq hview rfl).trans (hnow.trans (q.text_eq hview))
  | recorded q h hvalue hrecord =>
    exact Or.inl ⟨q.result.rows, ⟨rfl, q.rows_ne_nil, q.isConstrained⟩,
      q.advanced h hvalue hrecord⟩

/-- **The watermark advances exactly when constrained rows are handed on.**  For every job, engine
and backend, and every text in the world that nothing but a successful write changes: if a cycle of
a constrained job hands on rows, it has recorded their greatest value in exactly one place; however
else it ends, no write has landed, the text is what it was, and the store is what it was or what the
cycle has read.  Recording a mark never succeeds without having recorded it. -/
theorem watermark_advances_iff_rows_delivered (env : Surroundings (StateM σ))
    {text : σ → Option String} (hview : Undisturbed env text) (c : Cycle) (s : σ) :
    let r := tryPoll env.traced c s
    (∀ rows, Delivers c rows r → Advanced c rows r) ∧
      ((¬ ∃ rows, Delivers c rows r) →
        c.store.Kept r.value.2.store r.exchanges ∧ text r.world = text s) ∧
      ∀ (store : Watermark.Store) (mark : Mark) (t : σ),
        let w := store.record env.traced.documents mark t
        w.value.1 = .ok () → store.Records mark w.value.2 w.exchanges := by
  refine ⟨?_, ?_, ?_⟩
  · intro rows hrows
    rcases (exit_tryPoll env c s).advanced_or_kept hview with ⟨rows', hrows', hadvanced⟩ | ⟨hnot, -⟩
    · obtain rfl : rows = rows' := Except.ok.inj (hrows.1.symm.trans hrows'.1)
      exact hadvanced
    · exact absurd ⟨rows, hrows⟩ hnot
  · intro hnot
    rcases (exit_tryPoll env c s).advanced_or_kept hview with ⟨rows, hrows, -⟩ | ⟨-, hkept⟩
    · exact absurd ⟨rows, hrows⟩ hnot
    · exact hkept
  · intro store mark t w hok
    exact (recording_record env store mark t).records hok

/-- The first cycle of the job hands on the row and has recorded its value. -/
theorem watermark_advances_to_first_row :
    Undisturbed oneRow id ∧
      ∃ rows, Delivers authors.start rows (tryPoll oneRow.traced authors.start none) ∧
        Advanced authors.start rows (tryPoll oneRow.traced authors.start none) := by
  have hview : Undisturbed oneRow id := by
    refine ⟨fun _ _ _ => rfl, fun _ _ => rfl, fun _ => rfl, ?_⟩
    intro location body s e t h
    cases h
  have hrows : Delivers authors.start [⟨[(Query.Rewriter.maxField, .string "6")]⟩]
      (tryPoll oneRow.traced authors.start none) :=
    ⟨rfl, List.cons_ne_nil _ _, rfl⟩
  have hadvances := watermark_advances_iff_rows_delivered oneRow hview authors.start none
  exact ⟨hview, _, hrows, hadvances.1 _ hrows⟩

end Cycle

end Tidemark
