import Tidemark.Proofs.Cycle.Restart

/-!
# What stands in the rows decides nothing

Two scripts answer the calls of the engine, one answer for each call (`Surroundings.scripted`).
They agree on the calls of a run if they give the same answers at a point in time, and otherwise
the same errors, the same points in time and the same numbers of rows (`Agree`).  Then the job that
is answered by the one does what the job that is answered by the other does.

The obstacle is that the runs do not mirror each other: their engines answer differently, and only
along the calls that are made is it known how far.  So the relation between two computations
(`Likeness.Sim`) takes the agreement on the calls of the first one as a hypothesis, and keeps count
of the answers that were used up.  What becomes of the documents is left to a mirror of the backend
and the clock, with a likeness of the watermarks that are read and recorded under it (`Likeness`).
-/

namespace Tidemark

open Watermark (AnswerAlike Store)
open Engine (PointInTime QueryResult EngineError Row)

/-! ### Scripts -/

/-- The answers to the calls of an engine, in order. -/
def Script : Type :=
  ℕ → Except EngineError QueryResult

/-- Answers with the same error, or the same point in time and the same number of rows. -/
inductive SameShape : Except EngineError QueryResult → Except EngineError QueryResult → Prop
  | error (e : EngineError) : SameShape (.error e) (.error e)
  | rows {r r' : QueryResult} (htoken : r.token = r'.token)
      (hlength : r.rows.length = r'.rows.length) : SameShape (.ok r) (.ok r')

/-- What two scripts must have in common at a call: everything, if it is made at a point in time. -/
def AgreeAt : Option PointInTime → Except EngineError QueryResult →
    Except EngineError QueryResult → Prop
  | none => SameShape
  | some _ => Eq

/-- Two scripts agree on calls, of which the first is the one with a number. -/
def Agree (script script' : Script) (number : ℕ) (calls : List EngineCall) : Prop :=
  ∀ i call, calls[i]? = some call → AgreeAt call.point (script (number + i)) (script' (number + i))

section Agree

variable {script script' : Script} {number : ℕ}

/-- Scripts that agree on calls agree on the first of them and on the others. -/
lemma Agree.of_append {calls later : List EngineCall}
    (h : Agree script script' number (calls ++ later)) :
    Agree script script' number calls ∧ Agree script script' (number + calls.length) later := by
  refine ⟨?_, ?_⟩
  · intro i call hi
    have hlt : i < calls.length := (List.getElem?_eq_some_iff.1 hi).1
    exact h i call (by rw [List.getElem?_append_left hlt, hi])
  · intro i call hi
    rw [Nat.add_assoc]
    refine h _ call ?_
    rw [List.getElem?_append_right (Nat.le_add_right _ _), Nat.add_sub_cancel_left, hi]

/-- Scripts that agree on one call agree at its point in time. -/
lemma Agree.at_call {call : EngineCall} (h : Agree script script' number [call]) :
    AgreeAt call.point (script number) (script' number) :=
  h 0 call rfl

end Agree

/-- The same surroundings, except that a script answers the calls of the engine; the world keeps
count of them. -/
def Surroundings.scripted {σ : Type} (env : Surroundings (StateM σ)) (script : Script) :
    Surroundings (StateM (ℕ × σ)) where
  engine.execute plan point := fun w =>
    (script w.1, w.1 + 1, ((env.engine.execute plan point).run w.2).2)
  documents.read uri := fun w =>
    let r := (env.documents.read uri).run w.2
    (r.1, w.1, r.2)
  documents.write location body := fun w =>
    let r := (env.documents.write location body).run w.2
    (r.1, w.1, r.2)
  now := fun w =>
    let r := env.now.run w.2
    (r.1, w.1, r.2)

/-! ### What two runs have in common -/

/-- Calls that match: the contents of rows may differ, unless they were asked for at a point in
time. -/
inductive Overlooks (text : String → String → Prop) (body : Json → Json → Prop) :
    Exchange → Exchange → Prop
  | rows (plan : Query.Plan) {answer answer' : Except EngineError QueryResult}
      (h : SameShape answer answer') :
      Overlooks text body (.execute plan none answer) (.execute plan none answer')
  | alike {x x' : Exchange} (h : ExchangeAlike text body x x') : Overlooks text body x x'

/-- Results of polls with the same error, or with equally many rows. -/
inductive SameFate : Cycle.Result → Cycle.Result → Prop
  | error (e : CycleError) : SameFate (.error e) (.error e)
  | ok {rows rows' : List Row} (hlength : rows.length = rows'.length) :
      SameFate (.ok rows) (.ok rows')

/-- A relation on watermarks that holds of what is read and recorded under a mirror. -/
structure Likeness {σ σ' : Type} {env : Surroundings (StateM σ)} {env' : Surroundings (StateM σ')}
    (M : Mirror env env') where
  alike : Watermark → Watermark → Prop
  refl : ∀ w, alike w w
  untimed : ∀ {w w'}, alike w w' → w.untimed = w'.untimed
  read : ∀ {t t' w}, M.text t t' → Watermark.ofText t = .ok w →
    ∃ w', Watermark.ofText t' = .ok w' ∧ alike w w'
  update : ∀ {w w' i i'} value count, alike w w' → M.instant i i' →
    alike (w.update ⟨value, count, i⟩) (w'.update ⟨value, count, i'⟩)

/-- Watermarks that are equal. -/
def Likeness.equal {σ : Type} (env : Surroundings (StateM σ)) : Likeness (Mirror.same env) where
  alike := Eq
  refl _ := rfl
  untimed h := h ▸ rfl
  read h hw := h ▸ ⟨_, hw, rfl⟩
  update _ _ h hi := by subst h hi; rfl

/-- Watermarks that are equal but for the times at which they were observed. -/
def Likeness.untimedEqual {r : Responder} (hr : r.Timeless) {clock clock' : ℕ → Time.Instant}
    (hclock : ∀ n, (clock n).Valid) (hclock' : ∀ n, (clock' n).Valid) :
    Likeness (Responder.mirror hr hclock hclock') where
  alike w w' := w.untimed = w'.untimed
  refl _ := rfl
  untimed h := h
  read {t t' w} h hw := by
    rcases h with rfl | ⟨v, v', hv, hv', huntimed⟩
    · exact ⟨w, hw, rfl⟩
    · obtain rfl : v = w := Except.ok.inj (hv.symm.trans hw)
      exact ⟨v', hv', huntimed⟩
  update {w w'} i i' value count h _ := by
    have hcolumn : w.column = w'.column := Watermark.column_eq_of_untimed h
    exact Prod.ext hcolumn rfl

namespace Likeness

variable {σ σ' : Type} {env : Surroundings (StateM σ)} {env' : Surroundings (StateM σ')}
  {M : Mirror env env'} (L : Likeness M) {script script' : Script}

/-- Stores of one location that hold watermarks that are alike. -/
structure Stores (store store' : Store) : Prop where
  location : store.location = store'.location
  current : L.alike store.current store'.current

/-- Jobs that differ in what their stores hold at most, and there no more than is alike. -/
structure Jobs (c c' : Cycle) : Prop where
  rewriter : c.rewriter = c'.rewriter
  phase : c.phase = c'.phase
  count : c.count = c'.count
  journal : c.journal = c'.journal
  store : L.Stores c.store c'.store

/-- Outcomes of polls with the same fate, and the jobs after them. -/
structure Outcomes (o o' : Cycle.Outcome) : Prop where
  fate : SameFate o.1 o'.1
  job : L.Jobs o.2 o'.2

variable {L}

lemma Stores.column {store store' : Store} (h : L.Stores store store') :
    store.current.column = store'.current.column :=
  Watermark.column_eq_of_untimed (L.untimed h.current)

lemma Jobs.refl (c : Cycle) : L.Jobs c c :=
  ⟨rfl, rfl, rfl, rfl, rfl, L.refl _⟩

lemma Jobs.begin {c c' : Cycle} (h : L.Jobs c c') : L.Jobs c.begin c'.begin :=
  ⟨h.rewriter, h.phase, congrArg (· + 1) h.count, rfl, h.store⟩

lemma Jobs.enter {c c' : Cycle} (h : L.Jobs c c') (p : Phase) :
    L.Jobs (c.enter p) (c'.enter p) := by
  unfold Cycle.enter
  rw [h.phase]
  split
  · exact h
  · exact ⟨h.rewriter, rfl, h.count, by rw [h.journal, h.count], h.store⟩

lemma Jobs.with_store {c c' : Cycle} (h : L.Jobs c c') {store store' : Store}
    (hstore : L.Stores store store') :
    L.Jobs { c with store := store } { c' with store := store' } :=
  ⟨h.rewriter, h.phase, h.count, h.journal, hstore⟩

lemma Jobs.polling {c c' : Cycle} (h : L.Jobs c c') (anew : Bool) :
    L.Jobs (c.polling anew) (c'.polling anew) := by
  cases anew with
  | false => exact h
  | true =>
    have hdescription : c.description = c'.description := by
      rw [Cycle.description, Cycle.description, h.rewriter, h.store.location, h.store.column]
    change L.Jobs c.description.start c'.description.start
    rw [hdescription]
    exact .refl _

/-! ### Computations side by side -/

variable (M) in
/-- Worlds in which equally many answers were used up, and that are related besides. -/
def Beside (w : ℕ × σ) (w' : ℕ × σ') : Prop :=
  w.1 = w'.1 ∧ M.world w.2 w'.2

variable {α α' β β' : Type}

variable (M) in
/-- Runs that match: related values, worlds in which one answer was used up for each call of the
engine, and calls that match one by one. -/
structure Matches (V : α → α' → Prop) (number : ℕ) (r : Traced.Run (ℕ × σ) α)
    (r' : Traced.Run (ℕ × σ') α') : Prop where
  value : V r.value r'.value
  number_eq : r.world.1 = number + (engineCalls r.exchanges).length
  beside : Beside M r.world r'.world
  exchanges : List.Forall₂ (Overlooks M.text M.body) r.exchanges r'.exchanges

variable (M script script') in
/-- Computations that match from worlds that are beside each other, as long as the scripts agree on
the calls that the first one makes. -/
def Sim (V : α → α' → Prop) (x : Traced (ℕ × σ) α) (x' : Traced (ℕ × σ') α') : Prop :=
  ∀ w w', Beside M w w' → Agree script script' w.1 (engineCalls (x w).exchanges) →
    Matches M V w.1 (x w) (x' w')

variable {V : α → α' → Prop} {W : β → β' → Prop}

lemma sim_pure {a : α} {a' : α'} (h : V a a') : Sim M script script' V (pure a) (pure a') :=
  fun _ _ hw _ => ⟨h, rfl, hw, .nil⟩

lemma Sim.bind {x : Traced (ℕ × σ) α} {x' : Traced (ℕ × σ') α'} {f : α → Traced (ℕ × σ) β}
    {f' : α' → Traced (ℕ × σ') β'} (hx : Sim M script script' V x x')
    (hf : ∀ a a', V a a' → Sim M script script' W (f a) (f' a')) :
    Sim M script script' W (x >>= f) (x' >>= f') := by
  intro w w' hw hagree
  have happend : engineCalls ((x >>= f) w).exchanges = engineCalls (x w).exchanges ++
      engineCalls (f (x w).value (x w).world).exchanges := engineCalls_append _ _
  rw [happend] at hagree
  obtain ⟨hfirst, hsecond⟩ := hagree.of_append
  have hx' := hx w w' hw hfirst
  rw [← hx'.number_eq] at hsecond
  have hf' := hf _ _ hx'.value _ _ hx'.beside hsecond
  refine ⟨hf'.value, ?_, hf'.beside, List.rel_append hx'.exchanges hf'.exchanges⟩
  rw [happend, List.length_append, ← Nat.add_assoc, ← hx'.number_eq]
  exact hf'.number_eq

/-- The engine is asked without a point in time: the contents of the rows may differ. -/
lemma sim_execute_none (plan : Query.Plan) :
    Sim M script script' SameShape ((env.scripted script).traced.engine.execute plan none)
      ((env'.scripted script').traced.engine.execute plan none) := by
  rintro ⟨n, s⟩ ⟨n', s'⟩ ⟨hn, hs⟩ hagree
  obtain rfl : n = n' := hn
  have hshape : SameShape (script n) (script' n) := hagree.at_call
  have hworld := (M.execute plan none hs).2
  exact ⟨hshape, rfl, ⟨rfl, hworld⟩, .cons (.rows plan hshape) .nil⟩

/-- The engine is asked at a point in time: the answers are equal. -/
lemma sim_execute_some (plan : Query.Plan) (point : PointInTime) :
    Sim M script script' Eq ((env.scripted script).traced.engine.execute plan (some point))
      ((env'.scripted script').traced.engine.execute plan (some point)) := by
  rintro ⟨n, s⟩ ⟨n', s'⟩ ⟨hn, hs⟩ hagree
  obtain rfl : n = n' := hn
  have hanswer : script n = script' n := hagree.at_call
  have hworld := (M.execute plan (some point) hs).2
  refine ⟨hanswer, rfl, ⟨rfl, hworld⟩, .cons (.alike ?_) .nil⟩
  change ExchangeAlike _ _ (.execute plan _ (script n)) (.execute plan _ (script' n))
  rw [← hanswer]
  exact .execute plan (some point) _

lemma sim_read (uri : String) :
    Sim M script script' (AnswerAlike M.text) ((env.scripted script).traced.documents.read uri)
      ((env'.scripted script').traced.documents.read uri) := by
  rintro ⟨n, s⟩ ⟨n', s'⟩ ⟨hn, hs⟩ -
  obtain ⟨hanswer, hworld⟩ := M.read uri hs
  exact ⟨hanswer, rfl, ⟨hn, hworld⟩, .cons (.alike (.read uri hanswer)) .nil⟩

lemma sim_write (location : Storage.Location) {b b' : Json} (hb : M.body b b') :
    Sim M script script' Eq ((env.scripted script).traced.documents.write location b)
      ((env'.scripted script').traced.documents.write location b') := by
  rintro ⟨n, s⟩ ⟨n', s'⟩ ⟨hn, hs⟩ -
  obtain ⟨hanswer, hworld⟩ := M.write location hs hb
  refine ⟨hanswer, rfl, ⟨hn, hworld⟩, .cons (.alike ?_) .nil⟩
  change ExchangeAlike _ _ (.write location b ((env.documents.write location b).run s).1)
    (.write location b' ((env'.documents.write location b').run s').1)
  rw [← hanswer]
  exact .write location hb _

lemma sim_now :
    Sim M script script' M.instant (env.scripted script).traced.now
      (env'.scripted script').traced.now := by
  rintro ⟨n, s⟩ ⟨n', s'⟩ ⟨hn, hs⟩ -
  obtain ⟨hinstant, hworld⟩ := M.clock hs
  exact ⟨hinstant, rfl, ⟨hn, hworld⟩, .nil⟩

/-! ### Stores side by side -/

variable (L) in
/-- Results that are equal, from stores that hold what is alike. -/
def Reports {ε γ : Type} (r r' : Except ε γ × Store) : Prop :=
  r.1 = r'.1 ∧ L.Stores r.2 r'.2

/-- Watermarks that are judged to be sound in texts that are alike are alike. -/
lemma judge {t t' column uri : String} (ht : M.text t t') {w : Watermark}
    (hw : Store.judge column uri t = .ok w) :
    ∃ w', Store.judge column uri t' = .ok w' ∧ L.alike w w' := by
  obtain ⟨hread, hcolumn⟩ := Store.judge_eq_ok_iff.1 hw
  obtain ⟨w', hread', halike⟩ := L.read ht hread
  have hcolumn' : w'.column = column :=
    (Watermark.column_eq_of_untimed (L.untimed halike)).symm.trans hcolumn
  exact ⟨w', Store.judge_eq_ok_iff.2 ⟨hread', hcolumn'⟩, halike⟩

/-- Stores that are alike make the same of answers that are alike. -/
lemma Stores.load {store store' : Store} (h : L.Stores store store') {uri : String}
    {answer answer' : Except Storage.BackendError (Option String)}
    (halike : AnswerAlike M.text answer answer') :
    L.Reports (store.load uri answer) (store'.load uri answer') := by
  have hresult : (store.load uri answer).1 = (store'.load uri answer').1 :=
    Store.load_eq_of_alike h.column (halike.mono M.sameReading)
  refine ⟨hresult, ?_⟩
  cases halike with
  | error e => exact h
  | absent => exact h
  | @present t t' ht =>
    rw [Store.load_text, Store.load_text] at hresult
    simp only [Store.load]
    cases hjudge : Store.judge store.current.column uri t with
    | ok w =>
      obtain ⟨w', hjudge', hw⟩ := L.judge ht hjudge
      rw [h.column] at hjudge'
      rw [hjudge']
      exact ⟨h.location, hw⟩
    | error e =>
      rw [hjudge] at hresult
      cases hjudge' : Store.judge store'.current.column uri t' with
      | error e' => exact h
      | ok w' =>
        rw [hjudge'] at hresult
        cases hresult

lemma sim_retrieve {store store' : Store} (h : L.Stores store store') :
    Sim M script script' L.Reports (store.retrieve (env.scripted script).traced.documents)
      (store'.retrieve (env'.scripted script').traced.documents) := by
  unfold Store.retrieve
  cases hl : store.location with
  | none =>
    have hl' : store'.location = none := h.location ▸ hl
    have hvalue : store.current.value = store'.current.value :=
      Watermark.value_eq_of_untimed (L.untimed h.current)
    simp only [hl']
    exact sim_pure ⟨congrArg Except.ok hvalue, h⟩
  | some l =>
    have hl' : store'.location = some l := h.location ▸ hl
    simp only [hl']
    exact (sim_read l.uri).bind fun answer answer' halike => sim_pure (h.load halike)

lemma sim_record {store store' : Store} (h : L.Stores store store') (value : String)
    (count : UInt64) {i i' : Time.Instant} (hi : M.instant i i') :
    Sim M script script' L.Reports
      (store.record (env.scripted script).traced.documents ⟨value, count, i⟩)
      (store'.record (env'.scripted script').traced.documents ⟨value, count, i'⟩) := by
  have hmoved : L.Stores { store with current := store.current.update ⟨value, count, i⟩ }
      { store' with current := store'.current.update ⟨value, count, i'⟩ } :=
    ⟨h.location, L.update value count h.current hi⟩
  unfold Store.record
  cases hl : store.location with
  | none =>
    have hl' : store'.location = none := h.location ▸ hl
    simp only [hl']
    rw [hl, hl'] at hmoved
    exact sim_pure ⟨rfl, hmoved⟩
  | some l =>
    have hl' : store'.location = some l := h.location ▸ hl
    have hbody : M.body (Store.document store.current.column ⟨value, count, i⟩).toJson
        (Store.document store'.current.column ⟨value, count, i'⟩).toJson := by
      rw [h.column]
      exact M.document store'.current.column value count hi
    rw [hl, hl'] at hmoved
    simp only [hl', Store.toDocument_update]
    refine (sim_write l hbody).bind fun answer answer' hanswer => ?_
    subst hanswer
    cases answer with
    | error e => exact sim_pure ⟨rfl, h⟩
    | ok u => exact sim_pure ⟨rfl, hmoved⟩

/-! ### Cycles side by side -/

open Tidemark.Cycle

lemma sim_persist {rows rows' : List Row} (hlength : rows.length = rows'.length) (value : String)
    {c c' : Cycle} (h : L.Jobs c c') :
    Sim M script script' L.Outcomes (persist (env.scripted script).traced rows value c)
      (persist (env'.scripted script').traced rows' value c') := by
  unfold persist
  refine sim_now.bind fun i i' hi => ?_
  rw [← hlength]
  refine (sim_record (h.enter .persisting).store value _ hi).bind fun r r' hr => ?_
  rcases r with ⟨result, store⟩
  rcases r' with ⟨result', store'⟩
  obtain ⟨hresult, hstore⟩ := hr
  obtain rfl : result = result' := hresult
  have hjob := (h.enter .persisting).with_store hstore
  cases result with
  | error e => exact sim_pure ⟨.error _, hjob⟩
  | ok u => exact sim_pure ⟨.ok hlength, hjob⟩

lemma sim_advance {result result' : QueryResult} (htoken : result.token = result'.token)
    (hlength : result.rows.length = result'.rows.length) (plan : Query.Plan) {c c' : Cycle}
    (h : L.Jobs c c') :
    Sim M script script' L.Outcomes (advance (env.scripted script).traced result plan c)
      (advance (env'.scripted script').traced result' plan c') := by
  unfold advance
  rw [← htoken]
  refine (sim_execute_some plan result.token).bind fun answer answer' hanswer => ?_
  subst hanswer
  cases answer with
  | error e => exact sim_pure ⟨.error _, h.enter .executingMax⟩
  | ok a =>
    simp only
    cases Engine.maxValue a.rows with
    | error e => exact sim_pure ⟨.error _, h.enter .executingMax⟩
    | ok value => exact sim_persist hlength value (h.enter .executingMax)

/-- Whether there are rows decides how a cycle goes on, and which rows does not. -/
lemma sim_onRows (plan : Query.Plan) {c c' : Cycle} (h : L.Jobs c c')
    {answer answer' : Except EngineError QueryResult} (hanswer : SameShape answer answer') :
    Sim M script script' L.Outcomes (onRows (env.scripted script) plan c answer)
      (onRows (env'.scripted script') plan c' answer') := by
  cases hanswer with
  | error e => exact sim_pure ⟨.error _, h⟩
  | @rows r r' htoken hlength =>
    simp only [onRows, h.rewriter]
    cases hrows : r.rows with
    | nil =>
      have hrows' : r'.rows = [] := by
        rw [hrows, List.length_nil] at hlength
        exact List.eq_nil_of_length_eq_zero hlength.symm
      rw [hrows']
      exact sim_pure ⟨.ok rfl, h⟩
    | cons row rows =>
      rw [hrows, List.length_cons] at hlength
      obtain ⟨row', rows', hrows'⟩ := List.exists_cons_of_length_eq_add_one hlength.symm
      rw [hrows']
      cases c'.rewriter.maxPlan with
      | none =>
        refine sim_pure ⟨.ok ?_, h⟩
        rw [List.length_cons, hlength, hrows']
      | some plan =>
        refine sim_advance htoken ?_ plan h
        rw [hrows, List.length_cons, hlength]

lemma sim_readRows (previous : Option String) {c c' : Cycle} (h : L.Jobs c c') :
    Sim M script script' L.Outcomes (readRows (env.scripted script).traced previous c)
      (readRows (env'.scripted script').traced previous c') := by
  have hplan : c.rowPlan previous = c'.rowPlan previous := by
    rw [Cycle.rowPlan, Cycle.rowPlan, h.rewriter]
  have hbuilt : L.Jobs { c with rewriter := (c.rewriter.rowPlan previous).2 }
      { c' with rewriter := (c'.rewriter.rowPlan previous).2 } :=
    ⟨by rw [h.rewriter], h.phase, h.count, h.journal, h.store⟩
  have hreading : L.Jobs (c.reading previous) (c'.reading previous) :=
    hbuilt.enter .executingRows
  rw [readRows_eq, readRows_eq, hplan]
  exact (sim_execute_none _).bind fun answer answer' hanswer => sim_onRows _ hreading hanswer

variable (L) in
/-- Retrievals with equal results, and the jobs after them. -/
def Retrievals (r r' : Retrieval) : Prop :=
  r.1 = r'.1 ∧ L.Jobs r.2 r'.2

lemma sim_previousValue {c c' : Cycle} (h : L.Jobs c c') :
    Sim M script script' L.Retrievals (previousValue (env.scripted script).traced c)
      (previousValue (env'.scripted script').traced c') := by
  have hconstrained : c.rewriter.isConstrained = c'.rewriter.isConstrained := by
    rw [h.rewriter]
  unfold previousValue
  rw [hconstrained]
  split
  · exact (sim_retrieve h.store).bind fun r r' hr => sim_pure ⟨hr.1, h.with_store hr.2⟩
  · exact sim_pure ⟨rfl, h⟩

/-- A cycle that is answered by one script matches the cycle that is answered by the other. -/
theorem sim_tryPoll {c c' : Cycle} (h : L.Jobs c c') :
    Sim M script script' L.Outcomes (tryPoll (env.scripted script).traced c)
      (tryPoll (env'.scripted script').traced c') := by
  have hrun : Sim M script script' L.Outcomes (Cycle.run (env.scripted script).traced c.begin)
      (Cycle.run (env'.scripted script').traced c'.begin) := by
    refine (sim_previousValue (h.begin.enter .building)).bind fun r r' hr => ?_
    rcases r with ⟨previous, d⟩
    rcases r' with ⟨previous', d'⟩
    obtain ⟨hprevious, hjob⟩ := hr
    obtain rfl : previous = previous' := hprevious
    cases previous with
    | error e => exact sim_pure ⟨.error _, hjob⟩
    | ok v => exact sim_readRows v hjob
  exact hrun.bind fun o o' ho => sim_pure ⟨ho.fate, ho.job.enter .idle⟩

/-! ### Runs side by side -/

/-- The polls of two runs match, poll by poll. -/
theorem matches_moments (flags : List Bool) {c c' : Cycle} (h : L.Jobs c c') {w : ℕ × σ}
    {w' : ℕ × σ'} (hw : Beside M w w')
    (hagree : Agree script script' w.1
      (engineCalls (polls (env.scripted script).traced flags c w).exchanges)) :
    List.Forall₂ (fun p p' => Matches M L.Outcomes p.2.1 (pollAt (env.scripted script) p)
        (pollAt (env'.scripted script') p'))
      (moments (env.scripted script) flags c w) (moments (env'.scripted script') flags c' w') := by
  induction flags generalizing c c' w w' with
  | nil => exact .nil
  | cons anew flags ih =>
    rw [polls_cons, engineCalls_append] at hagree
    obtain ⟨hfirst, hlater⟩ := hagree.of_append
    have hpoll := sim_tryPoll (h.polling anew) w w' hw hfirst
    rw [← hpoll.number_eq] at hlater
    exact .cons hpoll (ih hpoll.value.job hpoll.beside hlater)

/-- Jobs whose stores hold equal watermarks are equal. -/
lemma Jobs.eq {c c' : Cycle} (h : (equal env).Jobs c c') : c = c' := by
  obtain ⟨hrewriter, hphase, hcount, hjournal, hlocation, hcurrent⟩ := h
  rcases c with ⟨rewriter, ⟨location, current⟩, phase, count, journal⟩
  rcases c' with ⟨rewriter', ⟨location', current'⟩, phase', count', journal'⟩
  obtain rfl : rewriter = rewriter' := hrewriter
  obtain rfl : phase = phase' := hphase
  obtain rfl : count = count' := hcount
  obtain rfl : journal = journal' := hjournal
  obtain rfl : location = location' := hlocation
  obtain rfl : current = current' := hcurrent
  rfl

end Likeness

namespace Cycle

/-- Jobs that differ in the time of the watermark that their stores hold at most. -/
def SameButTime (c c' : Cycle) : Prop :=
  c.rewriter = c'.rewriter ∧ c.phase = c'.phase ∧ c.count = c'.count ∧ c.journal = c'.journal ∧
    c.store.location = c'.store.location ∧ c.store.current.untimed = c'.store.current.untimed

/-- Polls that do the same, up to what stands in the rows: the same calls with the same plans and
points in time, the same fate, and the same job afterwards. -/
structure SamePoll {σ σ' : Type} (text : String → String → Prop) (body : Json → Json → Prop)
    (job : Cycle → Cycle → Prop) (r : Traced.Run σ Outcome) (r' : Traced.Run σ' Outcome) :
    Prop where
  calls : List.Forall₂ (Overlooks text body) r.exchanges r'.exchanges
  fate : SameFate r.value.1 r'.value.1
  job : job r.value.2 r'.value.2

/-- **What stands in the rows decides nothing.**  For every job, whatever its store and its backend
do, and wherever it is started anew: if two scripts answer its engine, and agree on the calls that
are made in everything but the contents of rows that are not asked for at a point in time, then the
two runs do the same, poll by poll.  They make the same calls of the engine with the same plans and
points in time, and the same reads and writes; the polls fail with the same errors or give equally
many rows; and after each of them the jobs are equal, the watermark at hand and the changes of
phase among the rest.  With clocks of their own, and a backend that answers by the calls made to it
so far, the runs do the same up to the times in documents and watermarks. -/
theorem row_contents_decide_nothing (c : Cycle) (flags : List Bool) (script script' : Script) :
    (∀ {σ : Type} (env : Surroundings (StateM σ)) (s : σ),
      Agree script script' 0
        (engineCalls (polls (env.scripted script).traced flags c (0, s)).exchanges) →
      List.Forall₂ (fun p p' =>
          let r := pollAt (env.scripted script) p
          let r' := pollAt (env.scripted script') p'
          SamePoll Eq Eq Eq r r' ∧ r.world = r'.world)
        (moments (env.scripted script) flags c (0, s))
        (moments (env.scripted script') flags c (0, s))) ∧
    ∀ (answers : Responder), answers.Timeless → ∀ (clock clock' : ℕ → Time.Instant),
      (∀ n, (clock n).Valid) → (∀ n, (clock' n).Valid) → ∀ (history : List Exchange),
      let env := answers.surroundings clock
      let env' := answers.surroundings clock'
      Agree script script' 0
        (engineCalls (polls (env.scripted script).traced flags c (0, history, 0)).exchanges) →
      List.Forall₂ (fun p p' => SamePoll SameText SameBody SameButTime
          (pollAt (env.scripted script) p) (pollAt (env'.scripted script') p'))
        (moments (env.scripted script) flags c (0, history, 0))
        (moments (env'.scripted script') flags c (0, history, 0)) := by
  refine ⟨?_, ?_⟩
  · intro σ env s hagree
    have hjob : (Likeness.equal env).Jobs c c := .refl c
    have hbeside : Likeness.Beside (Mirror.same env) (0, s) (0, s) := ⟨rfl, rfl⟩
    refine (Likeness.matches_moments flags hjob hbeside hagree).imp fun p p' h => ?_
    exact ⟨⟨h.exchanges, h.value.fate, h.value.job.eq⟩, Prod.ext h.beside.1 h.beside.2⟩
  · intro answers htimeless clock clock' hclock hclock' history env env' hagree
    have hhistory : List.Forall₂ Exchange.SameButTime history history :=
      List.forall₂_same.2 fun x _ => x.sameButTime_refl
    have hjob : (Likeness.untimedEqual htimeless hclock hclock').Jobs c c := .refl c
    have hbeside : Likeness.Beside (Responder.mirror htimeless hclock hclock') (0, history, 0)
        (0, history, 0) := ⟨rfl, hhistory⟩
    refine (Likeness.matches_moments flags hjob hbeside hagree).imp fun p p' h => ?_
    obtain ⟨hrewriter, hphase, hcount, hjournal, hstore⟩ := h.value.job
    exact ⟨h.exchanges, h.value.fate, hrewriter, hphase, hcount, hjournal, hstore.location,
      hstore.current⟩

/-- A script in which every page is a row with a name, and every greatest value is 6. -/
def named (name : String) : Script := fun n =>
  .ok ⟨[if n % 2 = 0 then ⟨[("NAME", .string name)]⟩
    else ⟨[(Query.Rewriter.maxField, .string "6")]⟩], ⟨7⟩⟩

/-- Two such scripts agree on the calls of two polls that read their rows and the greatest value. -/
lemma agree_named (name name' : String) {calls : List EngineCall}
    (hpoints : calls.map EngineCall.point = [none, some ⟨7⟩, none, some ⟨7⟩]) :
    Agree (named name) (named name') 0 calls := by
  intro i call hi
  have hpoint : (calls.map EngineCall.point)[i]? = some call.point := by
    rw [List.getElem?_map, hi]
    rfl
  rw [hpoints] at hpoint
  match i, hpoint with
  | 0, hpoint | 2, hpoint =>
    rw [← Option.some.inj hpoint]
    exact .rows rfl rfl
  | 1, hpoint | 3, hpoint =>
    rw [← Option.some.inj hpoint]
    rfl

/-- A backend that keeps what is written answers alike, whatever the times in its documents. -/
lemma timeless_oneRowResponder : oneRowResponder.Timeless :=
  ⟨fun _ _ _ => rfl, fun uri hh => storedText_alike uri hh, fun _ _ _ => rfl⟩

/-- A name that looks like a query makes no difference in two polls of the authors, before the
second of which the job is started anew. -/
theorem names_decide_nothing :
    List.Forall₂ (fun p p' =>
        let r := pollAt (oneRow.scripted (named "Ada")) p
        let r' := pollAt (oneRow.scripted (named "'), op.limit(0)")) p'
        SamePoll Eq Eq Eq r r' ∧ r.world = r'.world)
      (moments (oneRow.scripted (named "Ada")) [false, true] authors.start (0, none))
      (moments (oneRow.scripted (named "'), op.limit(0)")) [false, true] authors.start
        (0, none)) ∧
    let env := oneRowResponder.surroundings (stoppedClock 1)
    let env' := oneRowResponder.surroundings (stoppedClock 2)
    List.Forall₂ (fun p p' => SamePoll SameText SameBody SameButTime
        (pollAt (env.scripted (named "Ada")) p)
        (pollAt (env'.scripted (named "'), op.limit(0)")) p'))
      (moments (env.scripted (named "Ada")) [false, true] authors.start (0, [], 0))
      (moments (env'.scripted (named "'), op.limit(0)")) [false, true] authors.start
        (0, [], 0)) := by
  have hfirst : Time.Instant.Valid ⟨2024, 5, 1, 0, 0, 0, 0⟩ := by decide
  have hsecond : Time.Instant.Valid ⟨2024, 5, 2, 0, 0, 0, 0⟩ := by decide
  obtain ⟨hsame, halike⟩ := row_contents_decide_nothing authors.start [false, true]
    (named "Ada") (named "'), op.limit(0)")
  refine ⟨hsame oneRow none (agree_named _ _ ?_), ?_⟩
  · decide +kernel
  · refine halike oneRowResponder timeless_oneRowResponder (stoppedClock 1) (stoppedClock 2)
      (fun _ => hfirst) (fun _ => hsecond) [] (agree_named _ _ ?_)
    decide +kernel

end Cycle

end Tidemark
