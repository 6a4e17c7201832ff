import Mathlib.Data.List.Induction
import Mathlib.Logic.Function.Basic
import Mathlib.Tactic.Common
import Tidemark.Proofs.Watermark.Codec

/-!
# The stores of a location form a register

Any number of stores of one column work on one location, each of them doing one thing at a time:
it retrieves the watermark, records a mark, or is replaced by a new store.  The backend keeps the
text of the document that was last written and may fail whenever it is called (`Register`).  The
invariant is that the document holds the mark that was recorded last (`Consistent`): a recording
that succeeds replaces it, and nothing else changes it.  So every store, old or new, retrieves the
value that was recorded last, which is what a store in memory retrieves that has recorded the same
marks and met no failure (`remembered`).
-/

namespace Tidemark.Watermark

open Storage

/-! ### Stores in memory -/

/-- A backend that keeps nothing.  A store without a location never calls it. -/
def uncalled : DocumentBackend Id where
  read _ := .ok none
  write _ _ := .ok ()

/-- A store in memory that has recorded marks. -/
def memory (column : String) (marks : List Mark) : Store :=
  marks.foldl (fun store mark => (store.record uncalled mark).run.2) (.inMemory column)

/-- What a store in memory retrieves that has recorded marks. -/
def remembered (column : String) (marks : List Mark) : Except StoreError (Option String) :=
  ((memory column marks).retrieve uncalled).run.1

/-- A store in memory holds the mark that it has recorded last. -/
lemma memory_eq (column : String) (marks : List Mark) :
    memory column marks = ⟨none, ⟨column, marks.getLast?⟩⟩ := by
  induction marks using List.reverseRecOn with
  | nil => rfl
  | append_singleton marks mark ih =>
    rw [memory] at ih
    rw [memory, List.foldl_append, ih, List.getLast?_concat]
    rfl

/-- A store in memory retrieves the value that it has recorded last. -/
theorem remembered_eq (column : String) (marks : List Mark) :
    remembered column marks = .ok (marks.getLast?.map Mark.value) := by
  rw [remembered, memory_eq]
  rfl

/-! ### Stores at a location -/

/-- What a store is asked to do. -/
inductive Request where
  | retrieve
  | store (value : String) (rowCount : UInt64)
  /-- A new store takes the place of the old one. -/
  | reopen

/-- What a store answers. -/
inductive Reply where
  | retrieved (result : Except StoreError (Option String))
  | stored (result : Except StoreError Unit)
  | reopened

/-- Does what a store is asked to do; a mark carries the time at which it is recorded. -/
def Store.perform {m : Type → Type} [Monad m] (backend : DocumentBackend m)
    (now : m Time.Instant) (store : Store) : Request → m (Reply × Store)
  | .retrieve => do
    let (result, store) ← store.retrieve backend
    return (.retrieved result, store)
  | .store value rowCount => do
    let (result, store) ← store.record backend ⟨value, rowCount, ← now⟩
    return (.stored result, store)
  | .reopen => return (.reopened, ⟨store.location, .empty store.current.column⟩)

/-- Stores that are told apart by numbers, and the world that they share. -/
structure Shared (σ : Type) where
  stores : ℕ → Store
  world : σ

/-- One thing that a store did: what it was asked, what it answered, and how all was before and
after. -/
structure Event (σ : Type) where
  before : Shared σ
  handle : ℕ
  request : Request
  reply : Reply
  after : Shared σ

variable {σ : Type}

namespace Shared

/-- New stores of a column at a location. -/
def opened (column : String) (l : Location) (s : σ) : Shared σ :=
  ⟨fun _ => .durable column l, s⟩

/-- One store has changed, and so has the world. -/
def put (st : Shared σ) (handle : ℕ) (store : Store) (s : σ) : Shared σ :=
  ⟨Function.update st.stores handle store, s⟩

@[simp] lemma stores_put_self (st : Shared σ) (handle : ℕ) (store : Store) (s : σ) :
    (st.put handle store s).stores handle = store := by
  simp only [put, Function.update_self]

lemma stores_put_of_ne (st : Shared σ) {handle i : ℕ} (h : i ≠ handle) (store : Store) (s : σ) :
    (st.put handle store s).stores i = st.stores i := by
  simp only [put, Function.update_of_ne h]

end Shared

section Stores

variable (backend : DocumentBackend (StateM σ)) (now : StateM σ Time.Instant)

/-- One of the stores does what it is asked to do. -/
def Shared.step (st : Shared σ) (handle : ℕ) (request : Request) : Event σ :=
  let r := ((st.stores handle).perform backend now request).run st.world
  ⟨st, handle, request, r.1.1, st.put handle r.1.2 r.2⟩

/-- The stores do what they are asked to do, one thing after another. -/
def history : List (ℕ × Request) → Shared σ → List (Event σ)
  | [], _ => []
  | (handle, request) :: calls, st =>
    let e := st.step backend now handle request
    e :: history calls e.after

/-- The mark that was recorded, if one was. -/
def Event.mark? (e : Event σ) : Option Mark :=
  match e.request, e.reply with
  | .store value rowCount, .stored (.ok ()) =>
    some ⟨value, rowCount, (now.run e.before.world).1⟩
  | _, _ => none

/-- The marks that were recorded, in order. -/
def recorded (es : List (Event σ)) : List Mark :=
  es.filterMap (Event.mark? now)

/-- A location at which a backend keeps the document that was last written.  Reads and writes may
fail, and then they change nothing. -/
structure Register (l : Location) (document : σ → Option String) : Prop where
  found : ∀ s text, ((backend.read l.uri).run s).1 = .ok text → text = document s
  read : ∀ s, document ((backend.read l.uri).run s).2 = document s
  stored : ∀ body s t, (backend.write l body).run s = (.ok (), t) →
    document t = some body.compact ∨ document t = some body.pretty
  refused : ∀ body s e t, (backend.write l body).run s = (.error e, t) → document t = document s
  clock : ∀ s, document (now.run s).2 = document s
  observable : ∀ s, Observable (now.run s).1

/-- An event at a register, after marks have been recorded there. -/
structure Conforms (column : String) (l : Location) (past : List Mark) (e : Event σ) : Prop where
  /-- A retrieval whose read succeeds gives what a store in memory gives. -/
  retrieved : e.request = .retrieve → ∀ text,
    ((backend.read l.uri).run e.before.world).1 = .ok text →
      e.reply = .retrieved (remembered column past)
  /-- A retrieval whose read fails reports that failure. -/
  unread : e.request = .retrieve → ∀ source,
    ((backend.read l.uri).run e.before.world).1 = .error source →
      e.reply = .retrieved (.error (.access l.uri source))
  /-- No document is ever judged to be damaged or to be another job's: every error is one of the
  backend. -/
  sound : ∀ error, e.reply = .retrieved (.error error) ∨ e.reply = .stored (.error error) →
    ∃ source, error = .access l.uri source
  /-- A store that has retrieved a value holds the mark that was recorded last. -/
  current_retrieved : ∀ value, e.reply = .retrieved (.ok (some value)) → ∃ mark,
    past.getLast? = some mark ∧ mark.value = value ∧
      (e.after.stores e.handle).current = ⟨column, some mark⟩
  /-- A store that has recorded a mark holds that mark. -/
  current_stored : ∀ mark, e.mark? now = some mark →
    (e.after.stores e.handle).current = ⟨column, some mark⟩
  /-- Every store keeps to its column. -/
  columns : ∀ i, (e.before.stores i).current.column = column ∧
    (e.after.stores i).current.column = column

end Stores

/-! ### One step -/

/-- A document holds a mark, if there is one. -/
def Holds (column : String) (last : Option Mark) (document : Option String) : Prop :=
  match last with
  | none => document = none
  | some mark => ∃ text, document = some text ∧ ofText text = .ok ⟨column, some mark⟩

/-- The stores belong to one column and one location, and the document there holds the mark that
was recorded last. -/
structure Consistent (column : String) (l : Location) (document : σ → Option String)
    (last : Option Mark) (st : Shared σ) : Prop where
  locations : ∀ i, (st.stores i).location = some l
  columns : ∀ i, (st.stores i).current.column = column
  holds : Holds column last (document st.world)

/-- A store that has loaded a document holds its mark. -/
def Store.loaded (store : Store) (last : Option Mark) : Store :=
  match last with
  | none => store
  | some mark => { store with current := ⟨store.current.column, some mark⟩ }

/-- A store that loads a document reports the mark in it. -/
lemma Store.load_of_holds {store : Store} {last : Option Mark} {document : Option String}
    (h : Holds store.current.column last document) (uri : String) :
    store.load uri (.ok document) = (.ok (last.map Mark.value), store.loaded last) := by
  cases last with
  | none =>
    obtain rfl : document = none := h
    rfl
  | some mark =>
    obtain ⟨text, rfl, htext⟩ := h
    simp only [load, judge_eq_ok_iff.2 ⟨htext, rfl⟩]
    rfl

section Step

variable {backend : DocumentBackend (StateM σ)} {now : StateM σ Time.Instant} {column : String}
  {l : Location} {document : σ → Option String} {past : List Mark} {st : Shared σ} {handle : ℕ}

/-- A store that keeps to its place keeps all stores consistent. -/
lemma Consistent.put {last last' : Option Mark} (h : Consistent column l document last st)
    {store : Store} {s : σ} (hlocation : store.location = some l)
    (hcolumn : store.current.column = column) (hholds : Holds column last' (document s)) :
    Consistent column l document last' (st.put handle store s) := by
  refine ⟨?_, ?_, hholds⟩
  · intro i
    by_cases hi : i = handle
    · rw [hi, Shared.stores_put_self, hlocation]
    · rw [Shared.stores_put_of_ne st hi, h.locations i]
  · intro i
    by_cases hi : i = handle
    · rw [hi, Shared.stores_put_self, hcolumn]
    · rw [Shared.stores_put_of_ne st hi, h.columns i]

/-- A document that was written holds its mark. -/
lemma Register.holds_written (h : Register backend now l document) {mark : Mark} {s t : σ}
    (htime : Observable mark.observedAt)
    (hwrite : (backend.write l (Store.document column mark).toJson).run s = (.ok (), t)) :
    Holds column (some mark) (document t) := by
  rcases h.stored _ _ _ hwrite with htext | htext
  · exact ⟨_, htext, ofText_compact htime.valid column⟩
  · exact ⟨_, htext, ofText_pretty htime.valid column⟩

/-- The mark that a store is asked to record. -/
def markAt (now : StateM σ Time.Instant) (value : String) (rowCount : UInt64) (s : σ) : Mark :=
  ⟨value, rowCount, (now.run s).1⟩

/-- The ways in which a step can go at a register. -/
inductive Happens (backend : DocumentBackend (StateM σ)) (now : StateM σ Time.Instant)
    (column : String) (l : Location) (past : List Mark) (st : Shared σ) (handle : ℕ) :
    Event σ → Prop
  /-- The document is read. -/
  | retrieved {text : Option String} {t : σ}
      (hread : (backend.read l.uri).run st.world = (.ok text, t)) :
      Happens backend now column l past st handle ⟨st, handle, .retrieve,
        .retrieved (remembered column past),
        st.put handle ((st.stores handle).loaded past.getLast?) t⟩
  /-- The document is not read. -/
  | unread {source : BackendError} {t : σ}
      (hread : (backend.read l.uri).run st.world = (.error source, t)) :
      Happens backend now column l past st handle ⟨st, handle, .retrieve,
        .retrieved (.error (.access l.uri source)), st.put handle (st.stores handle) t⟩
  /-- The document of a mark is written. -/
  | stored {value : String} {rowCount : UInt64} {t : σ}
      (hwrite : (backend.write l (Store.document column
        (markAt now value rowCount st.world)).toJson).run (now.run st.world).2 = (.ok (), t)) :
      Happens backend now column l past st handle ⟨st, handle, .store value rowCount,
        .stored (.ok ()),
        st.put handle ⟨some l, ⟨column, some (markAt now value rowCount st.world)⟩⟩ t⟩
  /-- The document of a mark is not written. -/
  | refused {value : String} {rowCount : UInt64} {source : BackendError} {t : σ}
      (hwrite : (backend.write l (Store.document column
        (markAt now value rowCount st.world)).toJson).run (now.run st.world).2
          = (.error source, t)) :
      Happens backend now column l past st handle ⟨st, handle, .store value rowCount,
        .stored (.error (.access l.uri source)), st.put handle (st.stores handle) t⟩
  /-- A new store takes the place of the old one. -/
  | reopened : Happens backend now column l past st handle ⟨st, handle, .reopen, .reopened,
        st.put handle (.durable column l) st.world⟩

/-- A retrieval loads what is read. -/
lemma Store.run_retrieve {store : Store} (hl : store.location = some l)
    {answer : Except BackendError (Option String)} {s t : σ}
    (hread : (backend.read l.uri).run s = (answer, t)) :
    (store.perform backend now .retrieve).run s
      = ((.retrieved (store.load l.uri answer).1, (store.load l.uri answer).2), t) := by
  simp only [perform, retrieve, hl, StateT.run_bind, hread]
  rfl

/-- The store after an attempt to write the document of a mark. -/
def Store.moved (store : Store) (mark : Mark) : Except BackendError Unit → Store
  | .ok () => { store with current := store.current.update mark }
  | .error _ => store

/-- A recording writes the document of its mark, and the store moves on with it. -/
lemma Store.run_store {store : Store} (hl : store.location = some l) {value : String}
    {rowCount : UInt64} {answer : Except BackendError Unit} {s t : σ}
    (hwrite : (backend.write l
      (Store.document store.current.column (markAt now value rowCount s)).toJson).run
        (now.run s).2
        = (answer, t)) :
    (store.perform backend now (.store value rowCount)).run s
      = ((.stored (answer.mapError (.access l.uri)),
          store.moved (markAt now value rowCount s) answer), t) := by
  change StateT.run (do
    let (result, store) ← store.record backend (markAt now value rowCount s)
    return (Reply.stored result, store)) (now.run s).2 = _
  simp only [record, hl, toDocument_update, StateT.run_bind, hwrite]
  cases answer with
  | error source => rfl
  | ok u =>
    rw [moved, hl]
    rfl

/-- A store that has recorded a mark holds it. -/
lemma Store.moved_ok {store : Store} (hlocation : store.location = some l)
    (hcolumn : store.current.column = column) (mark : Mark) :
    store.moved mark (.ok ()) = ⟨some l, ⟨column, some mark⟩⟩ := by
  rw [moved, hlocation, Watermark.update, ← hcolumn]

/-- Every step at a register goes in one of these ways. -/
theorem Register.happens (h : Register backend now l document)
    (hst : Consistent column l document past.getLast? st) (handle : ℕ) (request : Request) :
    Happens backend now column l past st handle (st.step backend now handle request) := by
  have hlocation := hst.locations handle
  have hcolumn := hst.columns handle
  cases request with
  | retrieve =>
    rcases hread : (backend.read l.uri).run st.world with ⟨answer, t⟩
    rw [Shared.step, Store.run_retrieve hlocation hread]
    cases answer with
    | error source => exact .unread hread
    | ok text =>
      have hfound : text = document st.world := h.found _ _ (by rw [hread])
      have hload := Store.load_of_holds (hcolumn ▸ hst.holds) l.uri
      rw [hfound, hload, ← remembered_eq column past]
      exact .retrieved hread
  | store value rowCount =>
    rcases hwrite : (backend.write l (Store.document column
      (markAt now value rowCount st.world)).toJson).run (now.run st.world).2 with ⟨answer, t⟩
    have hwrite' := hwrite
    rw [← hcolumn] at hwrite'
    rw [Shared.step, Store.run_store hlocation hwrite']
    cases answer with
    | error source => exact .refused hwrite
    | ok u =>
      rw [Store.moved_ok hlocation hcolumn]
      exact .stored hwrite
  | reopen =>
    rw [Shared.step, Store.perform, hlocation, hcolumn]
    exact .reopened

/-- A store keeps its column and its location by what it loads at a register. -/
@[simp] lemma Store.location_loaded (store : Store) (last : Option Mark) :
    (store.loaded last).location = store.location := by
  cases last <;> rfl

@[simp] lemma Store.column_loaded (store : Store) (last : Option Mark) :
    (store.loaded last).current.column = store.current.column := by
  cases last <;> rfl

/-- A step keeps the document and the marks together. -/
lemma Happens.consistent {e : Event σ} (he : Happens backend now column l past st handle e)
    (h : Register backend now l document) (hst : Consistent column l document past.getLast? st) :
    Consistent column l document (past ++ (e.mark? now).toList).getLast? e.after := by
  have hlocation := hst.locations handle
  have hcolumn := hst.columns handle
  cases he with
  | @retrieved text t hread =>
    have hkeep : document t = document st.world := by
      have hread' := h.read st.world
      rwa [hread] at hread'
    rw [Event.mark?, Option.toList_none, List.append_nil]
    refine hst.put ?_ ?_ ?_
    · rw [Store.location_loaded, hlocation]
    · rw [Store.column_loaded, hcolumn]
    · rw [hkeep]
      exact hst.holds
  | @unread source t hread =>
    have hkeep : document t = document st.world := by
      have hread' := h.read st.world
      rwa [hread] at hread'
    rw [Event.mark?, Option.toList_none, List.append_nil]
    refine hst.put hlocation hcolumn ?_
    rw [hkeep]
    exact hst.holds
  | stored hwrite =>
    rw [Event.mark?, Option.toList_some, List.getLast?_concat]
    exact hst.put rfl rfl (h.holds_written (h.observable st.world) hwrite)
  | @refused value rowCount source t hwrite =>
    have hkeep : document t = document st.world := by
      rw [h.refused _ _ _ _ hwrite, h.clock]
    rw [Event.mark?, Option.toList_none, List.append_nil]
    refine hst.put hlocation hcolumn ?_
    rw [hkeep]
    exact hst.holds
  | reopened =>
    rw [Event.mark?, Option.toList_none, List.append_nil]
    exact hst.put rfl rfl hst.holds

/-- A step answers as a store in memory would. -/
lemma Happens.conforms {e : Event σ} (he : Happens backend now column l past st handle e)
    (h : Register backend now l document) (hst : Consistent column l document past.getLast? st) :
    Conforms backend now column l past e := by
  have hafter := he.consistent h hst
  cases he with
  | @retrieved text t hread =>
    refine ⟨fun _ _ _ => rfl, ?_, ?_, ?_, nofun, fun i => ⟨hst.columns i, hafter.columns i⟩⟩
    · intro _ source hsource
      rw [hread] at hsource
      cases hsource
    · rintro error (herror | herror)
      · rw [remembered_eq] at herror
        cases herror
      · cases herror
    · intro value hvalue
      rw [remembered_eq] at hvalue
      obtain ⟨mark, hmark, hvalue⟩ :=
        Option.map_eq_some_iff.1 (Except.ok.inj (Reply.retrieved.inj hvalue))
      refine ⟨mark, hmark, hvalue, ?_⟩
      simp only [Shared.stores_put_self, Store.loaded, hmark, hst.columns handle]
  | @unread source t hread =>
    refine ⟨?_, ?_, ?_, nofun, nofun, fun i => ⟨hst.columns i, hafter.columns i⟩⟩
    · intro _ text htext
      rw [hread] at htext
      cases htext
    · intro _ source' hsource
      rw [hread] at hsource
      rw [Except.error.inj hsource]
    · rintro error (herror | herror)
      · cases herror
        exact ⟨source, rfl⟩
      · cases herror
  | stored hwrite =>
    refine ⟨nofun, nofun, ?_, nofun, ?_, fun i => ⟨hst.columns i, hafter.columns i⟩⟩
    · rintro error (herror | herror) <;> cases herror
    · intro mark hmark
      obtain rfl := Option.some.inj hmark
      exact congrArg Store.current (Shared.stores_put_self _ _ _ _)
  | refused hwrite =>
    refine ⟨nofun, nofun, ?_, nofun, nofun, fun i => ⟨hst.columns i, hafter.columns i⟩⟩
    rintro error (herror | herror)
    · cases herror
    · cases herror
      exact ⟨_, rfl⟩
  | reopened =>
    refine ⟨nofun, nofun, ?_, nofun, nofun, fun i => ⟨hst.columns i, hafter.columns i⟩⟩
    rintro error (herror | herror) <;> cases herror

/-! ### All steps -/

/-- Every event of a history conforms, given the marks that were recorded before the history and in
it up to the event. -/
lemma conforms_of_mem_history (h : Register backend now l document) {calls : List (ℕ × Request)}
    (hst : Consistent column l document past.getLast? st) {before after : List (Event σ)}
    {e : Event σ} (heq : history backend now calls st = before ++ e :: after) :
    Conforms backend now column l (past ++ recorded now before) e := by
  induction calls generalizing past st before with
  | nil => simp [history] at heq
  | cons call calls ih =>
    obtain ⟨handle, request⟩ := call
    have hhappens := h.happens hst handle request
    rw [history] at heq
    cases before with
    | nil =>
      obtain ⟨rfl, -⟩ := List.cons.inj heq
      rw [recorded, List.filterMap_nil, List.append_nil]
      exact hhappens.conforms h hst
    | cons first before =>
      obtain ⟨rfl, hrest⟩ := List.cons.inj heq
      have hconforms := ih (hhappens.consistent h hst) hrest
      rw [List.append_assoc] at hconforms
      rw [recorded, List.filterMap_cons]
      cases hmark : (st.step backend now handle request).mark? now with
      | none => simpa [hmark, recorded] using hconforms
      | some mark => simpa [hmark, recorded] using hconforms

/-- **The stores of a location form a register.**  Over a backend that keeps the document that was
written last, and from a world without a document on, whatever the stores of a column are asked to
do, in whatever order, and whichever calls of the backend fail: a retrieval whose read succeeds
gives the value that was recorded last, as a store in memory does that has recorded the same marks;
no document is judged to be damaged; and a store that has retrieved a value or recorded a mark holds
that mark whole. -/
theorem stores_form_a_register (h : Register backend now l document) (column : String)
    {s : σ} (hs : document s = none) (calls : List (ℕ × Request))
    (past : List (Event σ)) (e : Event σ) (future : List (Event σ))
    (heq : history backend now calls (.opened column l s) = past ++ e :: future) :
    remembered column (recorded now past) = .ok ((recorded now past).getLast?.map Mark.value) ∧
      Conforms backend now column l (recorded now past) e := by
  have hst : Consistent column l document ([] : List Mark).getLast? (.opened column l s) :=
    ⟨fun _ => rfl, fun _ => rfl, hs⟩
  refine ⟨remembered_eq _ _, ?_⟩
  have hconforms := conforms_of_mem_history h hst heq
  rwa [List.nil_append] at hconforms

end Step

/-- A backend of one document, with a list that says which of the next calls fail. -/
def flaky : DocumentBackend (StateM (Option String × List Bool)) where
  read _ := fun s =>
    if s.2.head? = some true then (.error .transport, (s.1, s.2.tail))
    else (.ok s.1, (s.1, s.2.tail))
  write _ body := fun s =>
    if s.2.head? = some true then (.error .transport, (s.1, s.2.tail))
    else (.ok (), (some body.pretty, s.2.tail))

/-- A clock that stands still. -/
def stopped : StateM (Option String × List Bool) Time.Instant :=
  pure (Time.Instant.ofUnix 1717236000 0)

lemma register_flaky (l : Location) : Register flaky stopped l Prod.fst where
  found s text h := by
    simp only [flaky, StateT.run] at h
    split at h
    · cases h
    · exact (Except.ok.inj h).symm
  read s := by
    simp only [flaky, StateT.run]
    split <;> rfl
  stored body s t h := by
    simp only [flaky, StateT.run] at h
    split at h
    · cases h
    · obtain ⟨-, rfl⟩ := Prod.mk.inj h
      exact Or.inr rfl
  refused body s e t h := by
    simp only [flaky, StateT.run] at h
    split at h
    · obtain ⟨-, rfl⟩ := Prod.mk.inj h
      rfl
    · cases h
  clock _ := rfl
  observable _ := .clock (by decide) (by decide) (by decide)

/-- Two stores of one column.  The first one records a mark; the second one fails to record another,
is replaced, and then retrieves the first mark. -/
def twoStores : List (Event (Option String × List Bool)) :=
  history flaky stopped
    [(0, .store "O'Brien \"x\"" 3), (1, .store "late" 7), (1, .reopen), (1, .retrieve)]
    (.opened "name" ⟨"/names.json", "", []⟩ (none, [false, true, false]))

/-- The new store retrieves what the other store recorded, and holds the whole mark. -/
theorem new_store_retrieves_recorded_mark : ∃ e, twoStores.getLast? = some e ∧
    e.reply = .retrieved (.ok (some "O'Brien \"x\"")) ∧
    (e.after.stores 1).current
      = ⟨"name", some ⟨"O'Brien \"x\"", 3, Time.Instant.ofUnix 1717236000 0⟩⟩ := by
  obtain ⟨e, he, hrequest, hhandle, text, hread⟩ : ∃ e, twoStores = twoStores.take 3 ++ e :: [] ∧
      e.request = .retrieve ∧ e.handle = 1 ∧
        ∃ text, ((flaky.read "/names.json").run e.before.world).1 = .ok text :=
    ⟨_, rfl, rfl, rfl, _, rfl⟩
  have hpast : recorded stopped (twoStores.take 3)
      = [⟨"O'Brien \"x\"", 3, Time.Instant.ofUnix 1717236000 0⟩] := rfl
  obtain ⟨hremembered, hconforms⟩ :=
    stores_form_a_register (register_flaky ⟨"/names.json", "", []⟩) "name"
      (s := (none, [false, true, false])) rfl _ (twoStores.take 3) e [] he
  rw [hpast] at hremembered hconforms
  have hreply := hconforms.retrieved hrequest text hread
  rw [hremembered] at hreply
  obtain ⟨mark, hmark, -, hcurrent⟩ := hconforms.current_retrieved _ hreply
  obtain rfl := Option.some.inj hmark
  rw [hhandle] at hcurrent
  refine ⟨e, ?_, hreply, hcurrent⟩
  rw [he, List.getLast?_concat]

end Tidemark.Watermark
