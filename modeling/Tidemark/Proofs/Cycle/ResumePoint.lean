import Tidemark.Proofs.Cycle.Advance
import Tidemark.Proofs.Cycle.Protocol
import Tidemark.Proofs.Cycle.Retrieval
import Tidemark.Proofs.Daemon.Rounds

/-!
# The watermark that a job shows

A job shows the watermark that its store has last read or written, and the daemon reports it after
every cycle; the row plan of a cycle is built from the value that the cycle retrieves.  The two are
the same value, except where a document has vanished (`Store.Vanished`): then nothing is retrieved,
and the store goes on holding what it has last seen.  What a store holds once it has retrieved
something is what the job shows after the cycle, unless the cycle records a mark of its own
(`Exit.store_eq_of_not_delivers`).
-/

namespace Tidemark

namespace Watermark.Store

variable {σ : Type} {env : Surroundings (StateM σ)} {store : Store} {s : σ}

/-- There is no document at the location of a store that has read or written one before. -/
def Vanished (backend : Storage.DocumentBackend (StateM σ)) (store : Store) (s : σ) : Prop :=
  ∃ l, store.location = some l ∧ ((backend.read l.uri).run s).1 = .ok none ∧
    store.current.value ≠ none

/-- What a store in memory holds cannot vanish. -/
lemma not_vanished_of_none {backend : Storage.DocumentBackend (StateM σ)}
    (hl : store.location = none) : ¬ store.Vanished backend s := by
  rintro ⟨l, hl', -⟩
  rw [hl] at hl'
  cases hl'

/-- For a store with a location the answer of the backend decides. -/
lemma vanished_iff_of_some {backend : Storage.DocumentBackend (StateM σ)} {l : Storage.Location}
    (hl : store.location = some l) :
    store.Vanished backend s ↔
      ((backend.read l.uri).run s).1 = .ok none ∧ store.current.value ≠ none := by
  constructor
  · rintro ⟨l', hl', h⟩
    obtain rfl : l = l' := Option.some.inj (hl.symm.trans hl')
    exact h
  · intro h
    exact ⟨l, hl, h⟩

/-- What a store makes of an answer is what it holds, unless there is no document and it held
something before. -/
lemma Loading.holds_iff {uri : String} {answer : Except Storage.BackendError (Option String)}
    {p : Except StoreError (Option String) × Store} (h : Loading store uri answer p)
    {v : Option String} (hv : p.1 = .ok v) :
    p.2.current.value = v ↔ ¬ (answer = .ok none ∧ store.current.value ≠ none) := by
  cases h with
  | unread source => cases hv
  | missing =>
    obtain rfl := Except.ok.inj hv
    simp
  | damaged h he => cases hv
  | loaded htext hcolumn hvalue =>
    obtain rfl := Except.ok.inj hv
    simpa using hvalue

/-- Where there is no document nothing is retrieved, and the store stays as it is. -/
lemma Loading.of_missing {uri : String} {answer : Except Storage.BackendError (Option String)}
    {p : Except StoreError (Option String) × Store} (h : Loading store uri answer p)
    (hmissing : answer = .ok none) : p.1 = .ok none ∧ p.2 = store := by
  cases h with
  | missing => exact ⟨rfl, rfl⟩
  | _ => cases hmissing

/-- What is retrieved is what the store holds, unless the document has vanished. -/
lemma holds_retrieved_iff {v : Option String}
    (hv : (store.retrieve env.traced.documents s).value.1 = .ok v) :
    (store.retrieve env.traced.documents s).value.2.current.value = v ↔
      ¬ store.Vanished env.documents s := by
  cases hl : store.location with
  | none =>
    rw [retrieve_traced_of_none env hl] at hv ⊢
    exact iff_of_true (Except.ok.inj hv) (not_vanished_of_none hl)
  | some l =>
    rw [retrieve_traced_of_some env hl rfl] at hv ⊢
    rw [vanished_iff_of_some hl]
    exact (store.loading_load l.uri _).holds_iff hv

/-- Of a document that has vanished nothing is retrieved, and the store stays as it is. -/
lemma Vanished.retrieve_eq (h : store.Vanished env.documents s) :
    (store.retrieve env.traced.documents s).value = (.ok none, store) := by
  obtain ⟨l, hl, hmissing, -⟩ := h
  rw [retrieve_traced_of_some env hl rfl]
  obtain ⟨hnone, hstore⟩ := (store.loading_load l.uri _).of_missing hmissing
  exact Prod.ext hnone hstore

end Watermark.Store

namespace Cycle

variable {σ : Type} {env : Surroundings (StateM σ)} {c : Cycle} {s : σ}

/-- The store of a job that goes on after its retrieval is the one that has retrieved. -/
lemma RowCall.store_job (q : RowCall env c s) :
    q.job.store = (c.retrieval env s).value.2.store := by
  rw [q.retrieved]

/-- After a cycle that does not hand on rows of a constrained job the store holds what it held after
the retrieval. -/
lemma Exit.store_eq_of_not_delivers {r : Traced.Run σ Outcome} (h : Exit env c s r)
    (hnot : ¬ ∃ rows, Delivers c rows r) :
    r.value.2.store = (c.retrieval env s).value.2.store := by
  cases h with
  | unretrieved h => rw [store_enter, h]
  | rowsRefused q h => rw [store_enter, q.store_after, q.store_job]
  | drained q h hrows => rw [store_enter, q.store_after, q.store_job]
  | unconstrained q h hrows hplan => rw [store_enter, q.store_after, q.store_job]
  | maxRefused q h => rw [store_enter, q.store_after, q.toRowCall.store_job]
  | malformed q h hvalue => rw [store_enter, q.store_after, q.toRowCall.store_job]
  | unrecorded q h hvalue hrecord =>
    have hstore := ((q.recording_cases hrecord).refuses rfl).1
    rw [store_enter, ← q.toRowCall.store_job]
    exact hstore
  | recorded q h hvalue hrecord =>
    exact absurd ⟨q.result.rows, rfl, q.rows_ne_nil, q.isConstrained⟩ hnot

/-- A constrained job goes on with the store that has retrieved. -/
lemma store_retrieval (hk : c.rewriter.isConstrained = true) :
    (c.retrieval env s).value.2.store = (c.store.retrieve env.traced.documents s).value.2 := by
  rw [retrieval_of_isConstrained env hk]
  rfl

/-- Every world has a text that nothing changes. -/
lemma undisturbed_const (env : Surroundings (StateM σ)) : Undisturbed env fun _ => none :=
  ⟨fun _ _ _ => rfl, fun _ _ => rfl, fun _ => rfl, fun _ _ _ _ _ _ => rfl⟩

/-- **What is retrieved is what the job shows, unless a document has vanished.**  For every store,
whatever it holds, and every backend, whatever became of the documents: a store that has retrieved
a value holds it, unless there is no document where the store has read or written one before; then
nothing is retrieved and the store stays as it is.  In a cycle of a constrained job the first plan
is built from the value retrieved.  What the job shows after the cycle is what the daemon reports:
the value that the cycle has recorded, if it hands on rows, and otherwise what the store holds since
the retrieval. -/
theorem retrieved_value_is_current_unless_vanished (env : Surroundings (StateM σ))
    (store : Watermark.Store) (s : σ) {v : Option String}
    (hv : (store.retrieve env.traced.documents s).value.1 = .ok v) :
    let held := (store.retrieve env.traced.documents s).value.2
    (held.current.value = v ↔ ¬ store.Vanished env.documents s) ∧
      (store.Vanished env.documents s → v = none ∧ held = store) ∧
      ∀ (c : Cycle) (k : Query.Constraint), c.store = store → c.rewriter.constraint = some k →
        let p := tryPoll env.traced c s
        (∃ answer later,
          engineCalls p.exchanges = ⟨pagePlan c.rewriter.base k v, none, answer⟩ :: later) ∧
        (Daemon.runOnce env.traced c s).value.1.stats.watermark = p.value.2.currentValue ∧
        (∀ rows, Delivers c rows p → Advanced c rows p) ∧
        ((¬ ∃ rows, Delivers c rows p) → p.value.2.currentValue = held.current.value) := by
  refine ⟨Watermark.Store.holds_retrieved_iff hv, ?_, ?_⟩
  · intro hvanished
    have hretrieve := hvanished.retrieve_eq
    rw [hretrieve] at hv ⊢
    exact ⟨(Except.ok.inj hv).symm, rfl⟩
  · rintro c k rfl hk
    have hexit := exit_tryPoll env c s
    refine ⟨?_, ?_, ?_, ?_⟩
    · obtain ⟨answer, later, hcalls, -⟩ := (hexit.block hk).calls_eq hv
      exact ⟨answer, later, hcalls⟩
    · rw [Daemon.runOnce_traced]
    · exact (watermark_advances_iff_rows_delivered env (undisturbed_const env) c s).1
    · intro hnot
      have hstore := hexit.store_eq_of_not_delivers hnot
      rw [store_retrieval (isConstrained_of_constraint hk)] at hstore
      exact congrArg (fun store => store.current.value) hstore

/-- Surroundings with one document, in which no plan gives rows. -/
def noRows : Surroundings (StateM (Option String)) :=
  { oneRow with engine.execute := fun _ point => pure (.ok ⟨[], point.getD ⟨7⟩⟩) }

/-- The store of the authors once it has recorded the value 6. -/
def recordedSix : Watermark.Store :=
  let mark : Mark := ⟨"6", 1, ⟨2024, 5, 1, 0, 0, 0, 0⟩⟩
  (authors.start.store.record noRows.traced.documents mark none).value.2

/-- A document was written and is deleted: nothing is retrieved and every row is asked for, but the
store still holds the value that it has recorded, and the daemon reports it. -/
theorem deleted_document_is_still_reported :
    let found := recordedSix.retrieve noRows.traced.documents none
    let cycle := Daemon.runOnce noRows.traced { authors.start with store := recordedSix } none
    found.value.1 = .ok none ∧ found.value.2.current.value = some "6" ∧
      engineCalls cycle.exchanges = [⟨pagePlan authors.base idColumn none, none, .ok ⟨[], ⟨7⟩⟩⟩] ∧
      cycle.value.1.stats.watermark = some "6" :=
  ⟨rfl, rfl, rfl, rfl⟩

/-- The job of the authors with a store in memory that has recorded the value 6. -/
def rememberingSix : Cycle :=
  { authors.start with store := { recordedSix with location := none } }

/-- A store in memory holds the value that it retrieves; the job asks for the rows above it and
shows it. -/
theorem remembered_value_is_current :
    let found := rememberingSix.store.retrieve noRows.traced.documents none
    let cycle := tryPoll noRows.traced rememberingSix none
    found.value.1 = .ok (some "6") ∧ found.value.2.current.value = some "6" ∧
      (∃ answer later, engineCalls cycle.exchanges
        = ⟨pagePlan authors.base idColumn (some "6"), none, answer⟩ :: later) ∧
      cycle.value.2.currentValue = some "6" := by
  have hv : (rememberingSix.store.retrieve noRows.traced.documents none).value.1
      = .ok (some "6") := rfl
  obtain ⟨hheld, -, hcycle⟩ :=
    retrieved_value_is_current_unless_vanished noRows rememberingSix.store none hv
  have hcurrent := hheld.2 (Watermark.Store.not_vanished_of_none rfl)
  obtain ⟨hcalls, -, -, hshown⟩ := hcycle rememberingSix idColumn rfl rfl
  have hdrained : (tryPoll noRows.traced rememberingSix none).value.1 = .ok [] := rfl
  exact ⟨hv, hcurrent, hcalls, (hshown (not_delivers_of_nil hdrained)).trans hcurrent⟩

end Cycle

end Tidemark
