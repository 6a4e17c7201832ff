import Mathlib.Data.List.Forall2
import Tidemark.Proofs.Cycle.Run

/-!
# Runs that mirror each other

Two surroundings mirror each other if, from related worlds, they give the same answers, up to a
relation on the texts they read, the bodies they are given and the times they show (`Mirror`).  Two
computations mirror each other if they give related values, related worlds and calls that match one
by one (`Mirror.Sim`).  A cycle of a constrained job with a stored watermark mirrors the cycle of
any job of the same description (`sim_tryPoll`): what a job remembers between its cycles decides
nothing.  So runs mirror each other wherever their jobs are started anew (`sim_polls`).
-/

namespace Tidemark

namespace Watermark

/-- A watermark without the time at which it was observed. -/
def untimed (w : Watermark) : String × Option (String × UInt64) :=
  (w.column, w.mark.map fun m => (m.value, m.rowCount))

/-- Two texts that a store cannot tell apart, except by the time of the watermark in them. -/
def SameReading (t t' : String) : Prop :=
  (ofText t).map untimed = (ofText t').map untimed

lemma column_eq_of_untimed {w w' : Watermark} (h : w.untimed = w'.untimed) :
    w.column = w'.column :=
  congrArg Prod.fst h

lemma value_eq_of_untimed {w w' : Watermark} (h : w.untimed = w'.untimed) :
    w.value = w'.value := by
  have hmark : (w.mark.map fun m => (m.value, m.rowCount)).map Prod.fst
      = (w'.mark.map fun m => (m.value, m.rowCount)).map Prod.fst :=
    congrArg (fun p => p.2.map Prod.fst) h
  rw [Option.map_map, Option.map_map] at hmark
  exact hmark

/-- Answers of a backend to a read, alike up to a relation on the texts. -/
inductive AnswerAlike (text : String → String → Prop) :
    Except Storage.BackendError (Option String) → Except Storage.BackendError (Option String) → Prop
  | error (e : Storage.BackendError) : AnswerAlike text (.error e) (.error e)
  | absent : AnswerAlike text (.ok none) (.ok none)
  | present {t t' : String} (h : text t t') : AnswerAlike text (.ok (some t)) (.ok (some t'))

/-- Answers stay alike under a weaker relation on the texts. -/
lemma AnswerAlike.mono {text text' : String → String → Prop}
    {answer answer' : Except Storage.BackendError (Option String)}
    (h : AnswerAlike text answer answer') (himp : ∀ {t t'}, text t t' → text' t t') :
    AnswerAlike text' answer answer' := by
  cases h with
  | error e => exact .error e
  | absent => exact .absent
  | present h => exact .present (himp h)

namespace Store

/-- Stores of one location and one column. -/
def SamePlace (store store' : Store) : Prop :=
  store.location = store'.location ∧ store.current.column = store'.current.column

/-- Texts that read alike are judged alike. -/
lemma judge_eq_of_sameReading {t t' : String} (h : SameReading t t') (column uri : String) :
    (judge column uri t).map Watermark.value = (judge column uri t').map Watermark.value := by
  unfold SameReading at h
  unfold judge
  cases ht : ofText t with
  | error e =>
    cases ht' : ofText t' with
    | error e' =>
      rw [ht, ht'] at h
      rw [Except.error.inj h]
    | ok w' =>
      rw [ht, ht'] at h
      cases h
  | ok w =>
    cases ht' : ofText t' with
    | error e' =>
      rw [ht, ht'] at h
      cases h
    | ok w' =>
      rw [ht, ht'] at h
      have huntimed : w.untimed = w'.untimed := Except.ok.inj h
      have hcolumn := column_eq_of_untimed huntimed
      by_cases hc : w.column = column
      · have hc' : w'.column = column := hcolumn ▸ hc
        simp only [hc, hc', if_true, Except.map, value_eq_of_untimed huntimed]
      · have hc' : ¬ w'.column = column := hcolumn ▸ hc
        simp only [hc', if_false, Except.map, hcolumn]

/-- What a store reports is decided by what it judges. -/
lemma load_text (store : Store) (uri t : String) :
    (store.load uri (.ok (some t))).1 = (judge store.current.column uri t).map Watermark.value := by
  simp only [load]
  cases judge store.current.column uri t <;> rfl

/-- Stores of one column report the same of answers that are alike. -/
lemma load_eq_of_alike {store store' : Store} {uri : String}
    {answer answer' : Except Storage.BackendError (Option String)}
    (hcolumn : store.current.column = store'.current.column)
    (h : AnswerAlike SameReading answer answer') :
    (store.load uri answer).1 = (store'.load uri answer').1 := by
  cases h with
  | error e => rfl
  | absent => rfl
  | present h => rw [load_text, load_text, hcolumn, judge_eq_of_sameReading h]

end Store

end Watermark

/-! ### Surroundings that mirror each other -/

/-- Relations under which two surroundings answer alike. -/
structure Mirror {σ σ' : Type} (env : Surroundings (StateM σ)) (env' : Surroundings (StateM σ'))
    where
  world : σ → σ' → Prop
  instant : Time.Instant → Time.Instant → Prop
  text : String → String → Prop
  body : Json → Json → Prop
  execute : ∀ {s s'} plan point, world s s' →
    ((env.engine.execute plan point).run s).1 = ((env'.engine.execute plan point).run s').1 ∧
      world ((env.engine.execute plan point).run s).2 ((env'.engine.execute plan point).run s').2
  read : ∀ {s s'} uri, world s s' →
    Watermark.AnswerAlike text ((env.documents.read uri).run s).1
        ((env'.documents.read uri).run s').1 ∧
      world ((env.documents.read uri).run s).2 ((env'.documents.read uri).run s').2
  write : ∀ {s s' b b'} location, world s s' → body b b' →
    ((env.documents.write location b).run s).1 = ((env'.documents.write location b').run s').1 ∧
      world ((env.documents.write location b).run s).2 ((env'.documents.write location b').run s').2
  clock : ∀ {s s'}, world s s' → instant (env.now.run s).1 (env'.now.run s').1 ∧
    world (env.now.run s).2 (env'.now.run s').2
  /-- Texts that are alike hold the same watermark, up to its time. -/
  sameReading : ∀ {t t'}, text t t' → Watermark.SameReading t t'
  /-- Documents of one mark are alike, up to its time. -/
  document : ∀ {i i'} column value count, instant i i' →
    body (Watermark.Store.document column ⟨value, count, i⟩).toJson
      (Watermark.Store.document column ⟨value, count, i'⟩).toJson

/-- Calls that match, up to relations on the texts that are read and the bodies that are written. -/
inductive ExchangeAlike (text : String → String → Prop) (body : Json → Json → Prop) :
    Exchange → Exchange → Prop
  | execute (plan : Query.Plan) (point : Option Engine.PointInTime)
      (answer : Except Engine.EngineError Engine.QueryResult) :
      ExchangeAlike text body (.execute plan point answer) (.execute plan point answer)
  | read (uri : String) {answer answer' : Except Storage.BackendError (Option String)}
      (h : Watermark.AnswerAlike text answer answer') :
      ExchangeAlike text body (.read uri answer) (.read uri answer')
  | write (location : Storage.Location) {b b' : Json} (h : body b b')
      (answer : Except Storage.BackendError Unit) :
      ExchangeAlike text body (.write location b answer) (.write location b' answer)

namespace Mirror

variable {σ σ' : Type} {env : Surroundings (StateM σ)} {env' : Surroundings (StateM σ')}
  (M : Mirror env env') {α α' β β' : Type}

/-- Computations that mirror each other: from related worlds they give related values and worlds,
and their calls match one by one. -/
def Sim (V : α → α' → Prop) (x : Traced σ α) (x' : Traced σ' α') : Prop :=
  ∀ s s', M.world s s' → V (x s).value (x' s').value ∧ M.world (x s).world (x' s').world ∧
    List.Forall₂ (ExchangeAlike M.text M.body) (x s).exchanges (x' s').exchanges

variable {M} {V : α → α' → Prop} {W : β → β' → Prop}

lemma sim_pure {a : α} {a' : α'} (h : V a a') : M.Sim V (pure a) (pure a') :=
  fun _ _ hs => ⟨h, hs, .nil⟩

lemma Sim.bind {x : Traced σ α} {x' : Traced σ' α'} {f : α → Traced σ β} {f' : α' → Traced σ' β'}
    (hx : M.Sim V x x') (hf : ∀ a a', V a a' → M.Sim W (f a) (f' a')) :
    M.Sim W (x >>= f) (x' >>= f') := by
  intro s s' hs
  obtain ⟨hvalue, hworld, hcalls⟩ := hx s s' hs
  obtain ⟨hvalue', hworld', hcalls'⟩ := hf _ _ hvalue _ _ hworld
  exact ⟨hvalue', hworld', List.rel_append hcalls hcalls'⟩

/-- What always holds of the value of the first computation may be used, too. -/
lemma Sim.and {x : Traced σ α} {x' : Traced σ' α'} (h : M.Sim V x x')
    (P : α → Prop) (hP : ∀ s, P (x s).value) : M.Sim (fun a a' => V a a' ∧ P a) x x' := by
  intro s s' hs
  obtain ⟨hvalue, hrest⟩ := h s s' hs
  exact ⟨⟨hvalue, hP s⟩, hrest⟩

lemma sim_execute (plan : Query.Plan) (point : Option Engine.PointInTime) :
    M.Sim Eq (env.traced.engine.execute plan point) (env'.traced.engine.execute plan point) := by
  intro s s' hs
  obtain ⟨hanswer, hworld⟩ := M.execute plan point hs
  refine ⟨hanswer, hworld, .cons ?_ .nil⟩
  rw [← hanswer]
  exact .execute plan point _

lemma sim_read (uri : String) :
    M.Sim (Watermark.AnswerAlike M.text) (env.traced.documents.read uri)
      (env'.traced.documents.read uri) := by
  intro s s' hs
  obtain ⟨hanswer, hworld⟩ := M.read uri hs
  exact ⟨hanswer, hworld, .cons (.read uri hanswer) .nil⟩

lemma sim_write (location : Storage.Location) {b b' : Json} (hb : M.body b b') :
    M.Sim Eq (env.traced.documents.write location b) (env'.traced.documents.write location b') := by
  intro s s' hs
  obtain ⟨hanswer, hworld⟩ := M.write location hs hb
  refine ⟨hanswer, hworld, .cons ?_ .nil⟩
  rw [← hanswer]
  exact .write location hb _

lemma sim_now : M.Sim M.instant env.traced.now env'.traced.now := by
  intro s s' hs
  obtain ⟨hinstant, hworld⟩ := M.clock hs
  exact ⟨hinstant, hworld, .nil⟩

/-! ### Stores that mirror each other -/

open Watermark (Store)

/-- Results of one kind, from stores of one place. -/
def SameAtPlace {ε α : Type} (r r' : Except ε α × Store) : Prop :=
  r.1 = r'.1 ∧ r.2.SamePlace r'.2

/-- A store with a location retrieves what any store of the same place retrieves. -/
lemma sim_retrieve {store store' : Store} (h : store.SamePlace store') {l : Storage.Location}
    (hl : store.location = some l) :
    M.Sim SameAtPlace (store.retrieve env.traced.documents)
      (store'.retrieve env'.traced.documents) := by
  have hl' : store'.location = some l := h.1 ▸ hl
  unfold Store.retrieve
  simp only [hl, hl']
  refine (sim_read l.uri).bind fun answer answer' halike => sim_pure ⟨?_, ?_, ?_⟩
  · exact Store.load_eq_of_alike h.2 (halike.mono M.sameReading)
  · rw [Store.location_load, Store.location_load, h.1]
  · rw [Store.column_load, Store.column_load, h.2]

/-- A store records what any store of the same place records. -/
lemma sim_record {store store' : Store} (h : store.SamePlace store') {mark mark' : Mark}
    (hvalue : mark.value = mark'.value) (hcount : mark.rowCount = mark'.rowCount)
    (hinstant : M.instant mark.observedAt mark'.observedAt) :
    M.Sim SameAtPlace (store.record env.traced.documents mark)
      (store'.record env'.traced.documents mark') := by
  unfold Store.record
  cases hl : store.location with
  | none =>
    have hl' : store'.location = none := h.1 ▸ hl
    simp only [hl']
    exact sim_pure ⟨rfl, rfl, h.2⟩
  | some l =>
    have hl' : store'.location = some l := h.1 ▸ hl
    have hbody : M.body (Store.document store.current.column mark).toJson
        (Store.document store'.current.column mark').toJson := by
      rcases mark with ⟨value, count, i⟩
      rcases mark' with ⟨value', count', i'⟩
      obtain rfl : value = value' := hvalue
      obtain rfl : count = count' := hcount
      rw [h.2]
      exact M.document store'.current.column value count hinstant
    simp only [hl', Store.toDocument_update]
    refine (sim_write l hbody).bind fun answer answer' hanswer => ?_
    subst hanswer
    cases answer with
    | error e => exact sim_pure ⟨rfl, h⟩
    | ok u => exact sim_pure ⟨rfl, rfl, h.2⟩

/-! ### Cycles that mirror each other -/

open Tidemark.Cycle

/-- Outcomes with one result, and jobs of one description. -/
def SameOutcome {ε α : Type} (o o' : Except ε α × Cycle) : Prop :=
  o.1 = o'.1 ∧ o.2.description = o'.2.description

/-- Jobs of one description have stores of one place. -/
lemma samePlace_of_description {c c' : Cycle} (h : c.description = c'.description) :
    c.store.SamePlace c'.store :=
  ⟨congrArg Description.location h, congrArg Description.column h⟩

lemma sim_persist (rows : List Engine.Row) (value : String) {c c' : Cycle}
    (h : c.description = c'.description) :
    M.Sim SameOutcome (persist env.traced rows value c) (persist env'.traced rows value c') := by
  have henter : (c.enter .persisting).description = (c'.enter .persisting).description := by
    rw [description_enter, description_enter, h]
  unfold persist
  refine sim_now.bind fun i i' hi => ?_
  have hrecord : M.Sim SameAtPlace
      ((c.enter .persisting).store.record env.traced.documents
        ⟨value, UInt64.ofNat rows.length, i⟩)
      ((c'.enter .persisting).store.record env'.traced.documents
        ⟨value, UInt64.ofNat rows.length, i'⟩) :=
    sim_record (samePlace_of_description henter) rfl rfl hi
  refine hrecord.bind fun r r' hr => ?_
  rcases r with ⟨result, store⟩
  rcases r' with ⟨result', store'⟩
  obtain ⟨hresult, hplace⟩ := hr
  obtain rfl : result = result' := hresult
  have hdescription : { c.enter .persisting with store := store }.description
      = { c'.enter .persisting with store := store' }.description := by
    simp only [description, Description.mk.injEq] at henter ⊢
    exact ⟨henter.1, henter.2.1, hplace⟩
  cases result with
  | error e => exact sim_pure ⟨rfl, hdescription⟩
  | ok u => exact sim_pure ⟨rfl, hdescription⟩

lemma sim_advance (result : Engine.QueryResult) (plan : Query.Plan) {c c' : Cycle}
    (h : c.description = c'.description) :
    M.Sim SameOutcome (advance env.traced result plan c) (advance env'.traced result plan c') := by
  have henter : (c.enter .executingMax).description = (c'.enter .executingMax).description := by
    rw [description_enter, description_enter, h]
  unfold advance
  refine (sim_execute plan (some result.token)).bind fun answer answer' hanswer => ?_
  subst hanswer
  cases answer with
  | error e => exact sim_pure ⟨rfl, henter⟩
  | ok a =>
    simp only
    cases Engine.maxValue a.rows with
    | error e => exact sim_pure ⟨rfl, henter⟩
    | ok value => exact sim_persist result.rows value henter

lemma sim_onRows (plan : Query.Plan) {c c' : Cycle} (h : c.description = c'.description)
    (hmax : c.rewriter.maxPlan = c'.rewriter.maxPlan)
    (answer : Except Engine.EngineError Engine.QueryResult) :
    M.Sim SameOutcome (onRows env plan c answer) (onRows env' plan c' answer) := by
  cases answer with
  | error e => exact sim_pure ⟨rfl, h⟩
  | ok r =>
    simp only [onRows, hmax]
    split
    · exact sim_pure ⟨rfl, h⟩
    · exact sim_pure ⟨rfl, h⟩
    · exact sim_advance r _ h

/-- The row plan depends on the description of the job alone, and so does the max-value plan after
it. -/
lemma sim_readRows (previous : Option String) {c c' : Cycle}
    (h : c.description = c'.description) :
    M.Sim SameOutcome (readRows env.traced previous c) (readRows env'.traced previous c') := by
  have hbase : c.rewriter.base = c'.rewriter.base := congrArg Description.base h
  have hconstraint : c.rewriter.constraint = c'.rewriter.constraint :=
    congrArg Description.constraint h
  have hrowPlan : c.rewriter.rowPlan previous = c'.rewriter.rowPlan previous := by
    simp only [Query.Rewriter.rowPlan, hbase, hconstraint]
  have hplan : c.rowPlan previous = c'.rowPlan previous := congrArg Prod.fst hrowPlan
  have hreading : (c.reading previous).description = (c'.reading previous).description := by
    rw [description_reading, description_reading, h]
  have hmax : (c.reading previous).rewriter.maxPlan = (c'.reading previous).rewriter.maxPlan := by
    rw [rewriter_reading, rewriter_reading, hrowPlan]
  rw [readRows_eq, readRows_eq, hplan]
  refine (sim_execute _ none).bind fun answer answer' hanswer => ?_
  subst hanswer
  exact sim_onRows _ hreading hmax answer

/-- A constrained job with a stored watermark retrieves what any job of its description
retrieves. -/
lemma sim_previousValue {c c' : Cycle} (h : c.description = c'.description)
    (hk : c.rewriter.isConstrained = true) {l : Storage.Location}
    (hl : c.store.location = some l) :
    M.Sim SameOutcome (previousValue env.traced c) (previousValue env'.traced c') := by
  have hconstraint : c.rewriter.constraint = c'.rewriter.constraint :=
    congrArg Description.constraint h
  have hk' : c'.rewriter.isConstrained = true := by
    rw [Query.Rewriter.isConstrained, ← hconstraint]
    exact hk
  unfold previousValue
  rw [if_pos hk, if_pos hk']
  refine (sim_retrieve (samePlace_of_description h) hl).bind fun r r' hr => ?_
  rcases r with ⟨result, store⟩
  rcases r' with ⟨result', store'⟩
  obtain ⟨hresult, hplace⟩ := hr
  refine sim_pure ⟨hresult, ?_⟩
  simp only [description, Description.mk.injEq] at h ⊢
  exact ⟨h.1, h.2.1, hplace⟩

/-- A cycle of a constrained job with a stored watermark mirrors the cycle of any job of the same
description. -/
theorem sim_tryPoll {c c' : Cycle} (h : c.description = c'.description)
    (hk : c.rewriter.isConstrained = true) {l : Storage.Location}
    (hl : c.store.location = some l) :
    M.Sim SameOutcome (tryPoll env.traced c) (tryPoll env'.traced c') := by
  have hbuilding : (c.begin.enter .building).description
      = (c'.begin.enter .building).description := by
    rw [description_enter, description_enter, description_begin, description_begin, h]
  have hrun : M.Sim SameOutcome (Cycle.run env.traced c.begin)
      (Cycle.run env'.traced c'.begin) := by
    have hconstrained : (c.begin.enter .building).rewriter.isConstrained = true := by
      rw [rewriter_enter]
      exact hk
    have hlocation : (c.begin.enter .building).store.location = some l := by
      rw [store_enter]
      exact hl
    refine (sim_previousValue hbuilding hconstrained hlocation).bind fun r r' hr => ?_
    rcases r with ⟨previous, d⟩
    rcases r' with ⟨previous', d'⟩
    obtain ⟨hprevious, hdescription⟩ := hr
    obtain rfl : previous = previous' := hprevious
    cases previous with
    | error e => exact sim_pure ⟨rfl, hdescription⟩
    | ok v => exact sim_readRows v hdescription
  refine hrun.bind fun r r' hr => sim_pure ⟨hr.1, ?_⟩
  rw [description_enter, description_enter, hr.2]

/-- Runs of jobs of one description mirror each other, wherever their jobs are started anew. -/
theorem sim_polls {d : Cycle.Description} (hk : d.constraint.isSome = true)
    {l : Storage.Location} (hl : d.location = some l) {flags flags' : List Bool}
    (hlength : flags.length = flags'.length) {c c' : Cycle} (hc : c.description = d)
    (hc' : c'.description = d) :
    M.Sim (fun r r' => r.1 = r'.1) (polls env.traced flags c) (polls env'.traced flags' c') := by
  induction flags generalizing flags' c c' with
  | nil =>
    rw [List.length_nil] at hlength
    rw [List.eq_nil_of_length_eq_zero hlength.symm]
    exact sim_pure rfl
  | cons anew flags ih =>
    obtain ⟨anew', flags', rfl⟩ := List.exists_cons_of_length_eq_add_one hlength.symm
    have hpolling : (c.polling anew).description = d := (description_polling anew c).trans hc
    have hpolling' : (c'.polling anew').description = d :=
      (description_polling anew' c').trans hc'
    have hconstrained : (c.polling anew).rewriter.isConstrained = true := by
      rw [← hpolling] at hk
      exact hk
    have hlocation : (c.polling anew).store.location = some l :=
      (congrArg Description.location hpolling).trans hl
    have hfirst : M.Sim SameOutcome (tryPoll env.traced (c.polling anew))
        (tryPoll env'.traced (c'.polling anew')) :=
      sim_tryPoll (hpolling.trans hpolling'.symm) hconstrained hlocation
    have hkeeps : ∀ s, (tryPoll env.traced (c.polling anew) s).value.2.description = d := by
      intro s
      exact (description_tryPoll env (c.polling anew) s).trans hpolling
    refine (hfirst.and (fun o => o.2.description = d) hkeeps).bind fun r r' hr => ?_
    obtain ⟨⟨hresult, hdescription⟩, hd⟩ := hr
    have hlater : flags.length = flags'.length := by
      simpa only [List.length_cons, Nat.add_right_cancel_iff] using hlength
    refine (ih hlater hd (hdescription.symm.trans hd)).bind fun q q' hq => sim_pure ?_
    rw [hresult, hq]

end Mirror

end Tidemark
