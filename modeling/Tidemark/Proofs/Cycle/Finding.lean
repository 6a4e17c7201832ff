import Tidemark.Proofs.Cycle.Advance
import Tidemark.Proofs.Watermark.DocumentText

/-!
# The watermark that a job finds

Where a backend keeps the document that was written last (`Archived`), the watermark of a job is a
function of the world: what its store holds if that has no location, and what the document holds
otherwise (`Finds`).  A retrieval that does not fail gives this watermark, a mark that is recorded
becomes it, and nothing else changes it.
-/

namespace Tidemark

/-- A call that has failed. -/
inductive Exchange.Failed : Exchange → Prop
  | execute (plan : Query.Plan) (point : Option Engine.PointInTime) (e : Engine.EngineError) :
      Failed (.execute plan point (.error e))
  | read (uri : String) (e : Storage.BackendError) : Failed (.read uri (.error e))
  | write (location : Storage.Location) (body : Json) (e : Storage.BackendError) :
      Failed (.write location body (.error e))

namespace Cycle

variable {σ : Type}

/-- A backend that keeps the document that is written at a location, and a clock that shows dates
that exist.  Any call may fail, and then the document stays as it is. -/
structure Archived (env : Surroundings (StateM σ)) (location : Option Storage.Location)
    (document : σ → Option String) : Prop extends Undisturbed env document where
  found : ∀ l, location = some l → ∀ s text,
    ((env.documents.read l.uri).run s).1 = .ok text → text = document s
  stored : ∀ l, location = some l → ∀ body s t,
    (env.documents.write l body).run s = (.ok (), t) →
      document t = some body.compact ∨ document t = some body.pretty
  valid : ∀ s, (env.now.run s).1.Valid

/-- The watermark that a job finds when it looks for it: in its store if this has no location, and
in the document otherwise. -/
def Finds (document : σ → Option String) (c : Cycle) (s : σ) (watermark : Option String) : Prop :=
  match c.store.location, watermark with
  | none, _ => c.store.current.value = watermark
  | some _, none => document s = none
  | some _, some v => ∃ text mark, document s = some text ∧
      Watermark.ofText text = .ok ⟨c.store.current.column, some mark⟩ ∧ mark.value = v

section Finds

variable {document : σ → Option String} {c c' : Cycle} {s s' : σ} {v : Option String}

lemma finds_of_none (hl : c.store.location = none) :
    Finds document c s v ↔ c.store.current.value = v := by
  simp only [Finds, hl]

/-- With a location only the document and the description of the job matter. -/
lemma Finds.congr {l : Storage.Location} (hl : c.store.location = some l)
    (hc : c'.description = c.description) (hs : document s' = document s)
    (h : Finds document c s v) : Finds document c' s' v := by
  have hlocation : c'.store.location = some l := (congrArg Description.location hc).trans hl
  have hcolumn : c'.store.current.column = c.store.current.column :=
    congrArg Description.column hc
  cases v with
  | none =>
    simp only [Finds, hl, hlocation] at h ⊢
    exact hs.trans h
  | some v =>
    simp only [Finds, hl, hlocation, hcolumn, hs] at h ⊢
    exact h

/-- A job that has written nothing finds what it would have found before. -/
lemma Finds.kept {xs : List Exchange} (hkept : c.store.Kept c'.store xs)
    (hc : c'.description = c.description) (hs : document s' = document s)
    (h : Finds document c s v) : Finds document c' s' v := by
  cases hl : c.store.location with
  | none =>
    have hstore : c'.store = c.store := hkept.remembered hl
    rw [finds_of_none hl] at h
    rw [finds_of_none (hstore ▸ hl), hstore]
    exact h
  | some l => exact h.congr hl hc hs

end Finds

/-- What happens to the world elsewhere does not matter. -/
lemma Finds.elsewhere {document : σ → Option String} {c : Cycle} {s s' : σ} {v : Option String}
    (hs : document s' = document s) (h : Finds document c s v) : Finds document c s' v := by
  cases hl : c.store.location with
  | none =>
    rw [finds_of_none hl] at h ⊢
    exact h
  | some l => exact h.congr hl rfl hs

/-- A job that was just built finds nothing, if there is no document. -/
lemma finds_start {document : σ → Option String} {d : Description} {s : σ}
    (hdocument : document s = none) : Finds document d.start s none := by
  cases hl : d.location with
  | none =>
    rw [finds_of_none hl]
    rfl
  | some l =>
    have hlocation : d.start.store.location = some l := hl
    simp only [Finds, hlocation]
    exact hdocument

/-- A job that is built anew finds what it would have found before, if it has a stored watermark. -/
lemma Finds.polling {document : σ → Option String} {c : Cycle} {s : σ} {v : Option String}
    (h : Finds document c s v) {anew : Bool} (hanew : c.store.location = none → anew = false) :
    Finds document (c.polling anew) s v := by
  cases anew with
  | false => exact h
  | true =>
    obtain ⟨l, hl⟩ : ∃ l, c.store.location = some l :=
      Option.ne_none_iff_exists'.1 fun hnone => Bool.noConfusion (hanew hnone)
    exact h.congr hl (description_polling true c) rfl

section Archive

variable {env : Surroundings (StateM σ)} {location : Option Storage.Location}
  {document : σ → Option String} {c : Cycle} {s : σ}

/-- A retrieval finds what there is to find, or a call of it fails. -/
lemma Retrieved.finds (harchived : Archived env location document)
    (hlocation : c.store.location = location) (hk : c.rewriter.isConstrained = true)
    {v : Option String} (hv : Finds document c s v)
    {r : Traced.Run σ Retrieval} (h : Retrieved env c s r) :
    r.value.1 = .ok v ∨ (∃ e, r.value.1 = .error e) ∧ ∃ x ∈ r.exchanges, x.Failed := by
  cases h with
  | unasked hnot =>
    rw [hk] at hnot
    cases hnot
  | remembered hk hl =>
    rw [finds_of_none hl] at hv
    rw [← hv]
    exact Or.inl rfl
  | @read hk l hl answer t hread =>
    cases answer with
    | error e => exact Or.inr ⟨⟨_, rfl⟩, _, List.mem_singleton_self _, .read l.uri e⟩
    | ok text =>
      left
      have hfound : text = document s :=
        harchived.found l (hlocation.symm.trans hl) s text (by rw [hread])
      cases v with
      | none =>
        simp only [Finds, hl] at hv
        rw [hfound, hv]
        rfl
      | some v =>
        simp only [Finds, hl] at hv
        obtain ⟨text', mark, hdocument, htext, rfl⟩ := hv
        rw [hfound, hdocument]
        simp only [Watermark.Store.load,
          Watermark.Store.judge_eq_ok_iff.2 ⟨htext, rfl⟩]
        rfl

/-- A cycle that has retrieved a value has retrieved the one that there was to find. -/
lemma RowCall.previous_eq_of_finds (harchived : Archived env location document)
    (hlocation : c.store.location = location) (hk : c.rewriter.isConstrained = true)
    {v : Option String} (hv : Finds document c s v) (q : RowCall env c s) : q.previous = v := by
  rcases q.retrieved_cases.finds harchived hlocation hk hv with hok | ⟨⟨e, herror⟩, -⟩
  · exact Except.ok.inj hok
  · cases herror

/-- A job finds the mark that it has recorded. -/
lemma Recording.finds (harchived : Archived env location document) {store : Watermark.Store}
    {mark : Mark} (hmark : mark.observedAt.Valid) {r : Traced.Run σ Record}
    (h : Recording env store mark s r) (hok : r.value.1 = .ok ()) {c' : Cycle}
    (hstore : c'.store = r.value.2) (hc' : c'.store.location = location) :
    Finds document c' r.world (some mark.value) := by
  have hrecords := h.records hok
  have hlocation : c'.store.location = store.location := by
    rw [hstore, hrecords.store_eq]
  cases h with
  | kept hl =>
    rw [finds_of_none (hlocation.trans hl), hstore]
    rfl
  | @written l hl t hwrite =>
    have hd : location = some l := hc'.symm.trans (hlocation.trans hl)
    have hcolumn : c'.store.current.column = store.current.column := by
      rw [hstore]
      rfl
    simp only [Finds, hlocation, hl, hcolumn]
    rcases harchived.stored l hd _ _ _ hwrite with hcompact | hpretty
    · exact ⟨_, mark, hcompact, Watermark.ofText_compact hmark _, rfl⟩
    · exact ⟨_, mark, hpretty, Watermark.ofText_pretty hmark _, rfl⟩
  | refused hl hwrite => cases hok

/-- A job finds the value for which it has recorded a mark. -/
lemma MaxCall.finds_recorded (harchived : Archived env location document)
    (hlocation : c.store.location = location) (q : MaxCall env c s) {value : String}
    {store : Watermark.Store} {t : σ} {xs : List Exchange}
    (hrecord : q.recording value = ⟨(.ok (), store), t, xs⟩) :
    Finds document ((q.marked store).enter .idle) t (some value) := by
  have hdescription : ((q.marked store).enter .idle).description = c.description := by
    rw [description_enter, q.description_marked hrecord]
  refine (q.recording_cases hrecord).finds harchived (harchived.valid q.finish) rfl ?_
    ((congrArg Description.location hdescription).trans hlocation)
  rw [store_enter]
  rfl

/-- A job that hands on rows finds the value that it has recorded. -/
lemma Exit.finds_of_delivers (harchived : Archived env location document)
    (hlocation : c.store.location = location) {r : Traced.Run σ Outcome} (h : Exit env c s r)
    {rows : List Engine.Row} (hrows : Delivers c rows r) :
    Finds document r.value.2 r.world r.value.2.currentValue := by
  obtain ⟨hok, hne, hk⟩ := hrows
  cases h with
  | unretrieved h => cases hok
  | rowsRefused q h => cases hok
  | drained q h hnil => exact absurd (Except.ok.inj hok).symm hne
  | unconstrained q h hnonempty hplan =>
    rw [q.maxPlan_eq_none_iff, hk] at hplan
    cases hplan
  | maxRefused q h => cases hok
  | malformed q h hvalue => cases hok
  | unrecorded q h hvalue hrecord => cases hok
  | @recorded q a h value hvalue store t xs hrecord =>
    have hstore : ((q.marked store).enter .idle).store = store := by
      rw [store_enter]
      rfl
    have hrecorded : store = ⟨q.job.store.location, ⟨q.job.store.current.column,
        some (q.mark value)⟩⟩ := ((q.recording_cases hrecord).records rfl).store_eq
    have hcurrent : ((q.marked store).enter .idle).currentValue = some value := by
      rw [currentValue, hstore, hrecorded]
      rfl
    rw [hcurrent]
    exact q.finds_recorded harchived hlocation hrecord

/-- A job that hands on nothing finds what it would have found before. -/
lemma Exit.finds_of_not_delivers (harchived : Archived env location document)
    {r : Traced.Run σ Outcome} (h : Exit env c s r) (hnot : ¬ ∃ rows, Delivers c rows r)
    {v : Option String} (hv : Finds document c s v) : Finds document r.value.2 r.world v := by
  rcases h.advanced_or_kept harchived.toUndisturbed with ⟨rows, hrows, -⟩ | ⟨-, hkept, hdocument⟩
  · exact absurd ⟨rows, hrows⟩ hnot
  · exact hv.kept hkept h.description_eq hdocument

/-- A mark that is refused was not written. -/
lemma Recording.failed {store : Watermark.Store} {mark : Mark} {r : Traced.Run σ Record}
    (h : Recording env store mark s r) {e : Watermark.StoreError} (herror : r.value.1 = .error e) :
    ∃ x ∈ r.exchanges, x.Failed := by
  cases h with
  | kept hl => cases herror
  | written hl hwrite => cases herror
  | refused hl hwrite => exact ⟨_, List.mem_singleton_self _, .write _ _ _⟩

/-- A cycle that finds its watermark fails only if a call of it fails, or if the answer to its
max-value plan has no value. -/
lemma Exit.failed_or_malformed (harchived : Archived env location document)
    (hlocation : c.store.location = location) (hk : c.rewriter.isConstrained = true)
    {v : Option String} (hv : Finds document c s v) {r : Traced.Run σ Outcome}
    (h : Exit env c s r) {e : CycleError} (herror : r.value.1 = .error e) :
    (∃ x ∈ r.exchanges, x.Failed) ∨ ∃ (q : MaxCall env c s) (a : Engine.QueryResult)
      (f : Engine.MaxValueError), q.reply = .ok a ∧ Engine.maxValue a.rows = .error f := by
  cases h with
  | unretrieved h =>
    have hretrieved := retrieved_retrieval env c s
    rw [h] at hretrieved
    rcases hretrieved.finds harchived hlocation hk hv with hok | ⟨-, hfailed⟩
    · cases hok
    · exact Or.inl hfailed
  | @rowsRefused q e h =>
    refine Or.inl ⟨_, List.mem_append_right _ (List.mem_singleton_self _), ?_⟩
    rw [h]
    exact .execute _ _ e
  | drained q h hnil => cases herror
  | unconstrained q h hne hplan => cases herror
  | @maxRefused q e h =>
    refine Or.inl ⟨_, List.mem_append_right _ (List.mem_singleton_self _), ?_⟩
    rw [h]
    exact .execute _ _ e
  | malformed q h hvalue => exact Or.inr ⟨q, _, _, h, hvalue⟩
  | unrecorded q h hvalue hrecord =>
    obtain ⟨x, hx, hfailed⟩ := (q.recording_cases hrecord).failed rfl
    exact Or.inl ⟨x, List.mem_append_right _ hx, hfailed⟩
  | recorded q h hvalue hrecord => cases herror

end Archive

end Cycle

end Tidemark
