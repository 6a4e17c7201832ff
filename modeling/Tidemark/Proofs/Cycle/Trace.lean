import Mathlib.Tactic.Common
import Tidemark.Proofs.Cycle.Naturality

/-!
# Traces of a job

A job touches its surroundings in three kinds of calls: it has plans executed, and it reads and
writes the document of its watermark.  `Traced σ` computes over a world of type `σ`, as a state
monad does, and notes every such call with its answer.  Surroundings over any world can be traced
(`Surroundings.traced`), and a traced cycle without its notes is the cycle (`erase_tryPoll`).  The
engine and the backend are as free as the world is: they may fail at any call, and what they
answer may depend on everything that was asked before.
-/

namespace Tidemark

/-- A call of a job, with its answer. -/
inductive Exchange where
  | execute (plan : Query.Plan) (point : Option Engine.PointInTime)
      (answer : Except Engine.EngineError Engine.QueryResult)
  | read (uri : String) (answer : Except Storage.BackendError (Option String))
  | write (location : Storage.Location) (body : Json) (answer : Except Storage.BackendError Unit)

/-- A call of the engine, with its answer. -/
structure EngineCall where
  plan : Query.Plan
  point : Option Engine.PointInTime
  answer : Except Engine.EngineError Engine.QueryResult

/-- A call that writes a document, with its answer. -/
structure WriteCall where
  location : Storage.Location
  body : Json
  answer : Except Storage.BackendError Unit

namespace Exchange

/-- The call of the engine, if it is one. -/
def engineCall? : Exchange → Option EngineCall
  | execute plan point answer => some ⟨plan, point, answer⟩
  | _ => none

/-- The call that writes a document, if it is one. -/
def writeCall? : Exchange → Option WriteCall
  | write location body answer => some ⟨location, body, answer⟩
  | _ => none

end Exchange

/-- The calls of the engine, in order. -/
def engineCalls (xs : List Exchange) : List EngineCall :=
  xs.filterMap Exchange.engineCall?

/-- The calls that write a document, in order. -/
def writeCalls (xs : List Exchange) : List WriteCall :=
  xs.filterMap Exchange.writeCall?

@[simp] lemma engineCalls_nil : engineCalls [] = [] :=
  rfl

@[simp] lemma engineCalls_append (xs ys : List Exchange) :
    engineCalls (xs ++ ys) = engineCalls xs ++ engineCalls ys :=
  List.filterMap_append

@[simp] lemma engineCalls_execute (plan : Query.Plan) (point : Option Engine.PointInTime)
    (answer : Except Engine.EngineError Engine.QueryResult) :
    engineCalls [.execute plan point answer] = [⟨plan, point, answer⟩] :=
  rfl

@[simp] lemma engineCalls_read (uri : String)
    (answer : Except Storage.BackendError (Option String)) : engineCalls [.read uri answer] = [] :=
  rfl

@[simp] lemma engineCalls_write (location : Storage.Location) (body : Json)
    (answer : Except Storage.BackendError Unit) :
    engineCalls [.write location body answer] = [] :=
  rfl

@[simp] lemma writeCalls_nil : writeCalls [] = [] :=
  rfl

@[simp] lemma writeCalls_append (xs ys : List Exchange) :
    writeCalls (xs ++ ys) = writeCalls xs ++ writeCalls ys :=
  List.filterMap_append

@[simp] lemma writeCalls_execute (plan : Query.Plan) (point : Option Engine.PointInTime)
    (answer : Except Engine.EngineError Engine.QueryResult) :
    writeCalls [.execute plan point answer] = [] :=
  rfl

@[simp] lemma writeCalls_read (uri : String)
    (answer : Except Storage.BackendError (Option String)) : writeCalls [.read uri answer] = [] :=
  rfl

@[simp] lemma writeCalls_write (location : Storage.Location) (body : Json)
    (answer : Except Storage.BackendError Unit) :
    writeCalls [.write location body answer] = [⟨location, body, answer⟩] :=
  rfl

/-- What a traced computation gives: a value, the world after it, and the calls it made. -/
structure Traced.Run (σ α : Type) where
  value : α
  world : σ
  exchanges : List Exchange

/-- A computation over a world that notes its calls. -/
def Traced (σ α : Type) : Type :=
  σ → Traced.Run σ α

namespace Traced

variable {σ α β : Type}

instance : Monad (Traced σ) where
  pure a := fun s => ⟨a, s, []⟩
  bind x f := fun s =>
    ⟨(f (x s).value (x s).world).value, (f (x s).value (x s).world).world,
      (x s).exchanges ++ (f (x s).value (x s).world).exchanges⟩

@[simp] lemma pure_apply (a : α) (s : σ) : (pure a : Traced σ α) s = ⟨a, s, []⟩ :=
  rfl

/-- The calls of two computations in a row are the calls of the first and then of the second. -/
lemma bind_apply {x : Traced σ α} {f : α → Traced σ β} {s t : σ} {a : α} {xs : List Exchange}
    (h : x s = ⟨a, t, xs⟩) :
    (x >>= f) s = ⟨(f a t).value, (f a t).world, xs ++ (f a t).exchanges⟩ := by
  change Run.mk _ _ _ = _
  rw [h]

/-- Two computations in a row, with what each of them gives. -/
lemma bind_of {x : Traced σ α} {f : α → Traced σ β} {s t u : σ} {a : α} {b : β}
    {xs ys : List Exchange} (hx : x s = ⟨a, t, xs⟩) (hf : f a t = ⟨b, u, ys⟩) :
    (x >>= f) s = ⟨b, u, xs ++ ys⟩ := by
  rw [bind_apply hx, hf]

/-- A computation without the notes of its calls. -/
def erase (x : Traced σ α) : StateM σ α :=
  fun s => ((x s).value, (x s).world)

@[simp] lemma erase_pure (a : α) : (pure a : Traced σ α).erase = pure a :=
  rfl

/-- Two computations in a row, without the notes of their calls. -/
@[simp] lemma erase_bind (x : Traced σ α) (f : α → Traced σ β) :
    (x >>= f).erase = x.erase >>= fun a => (f a).erase :=
  rfl

/-- Leaving out the notes is a translation. -/
def erasure : Translation (Traced σ) (StateM σ) :=
  ⟨erase, erase_pure, erase_bind⟩

end Traced

namespace Surroundings

variable {σ : Type}

/-- The same surroundings, with every call noted. -/
def traced (env : Surroundings (StateM σ)) : Surroundings (Traced σ) where
  engine.execute plan point := fun s =>
    let r := (env.engine.execute plan point).run s
    ⟨r.1, r.2, [.execute plan point r.1]⟩
  documents.read uri := fun s =>
    let r := (env.documents.read uri).run s
    ⟨r.1, r.2, [.read uri r.1]⟩
  documents.write location body := fun s =>
    let r := (env.documents.write location body).run s
    ⟨r.1, r.2, [.write location body r.1]⟩
  now := fun s =>
    let r := env.now.run s
    ⟨r.1, r.2, []⟩

/-- Without the notes, the traced surroundings are the surroundings. -/
lemma map_traced (env : Surroundings (StateM σ)) : env.traced.map Traced.erasure = env :=
  rfl

end Surroundings

/-! ### The store -/

namespace Watermark.Store

variable {σ : Type} (env : Surroundings (StateM σ))

/-- A store without a location answers from itself. -/
lemma retrieve_traced_of_none {store : Store} (h : store.location = none) (s : σ) :
    store.retrieve env.traced.documents s = ⟨(.ok store.current.value, store), s, []⟩ := by
  unfold retrieve
  rw [h]
  rfl

/-- A store with a location reads its document once and judges what it reads. -/
lemma retrieve_traced_of_some {store : Store} {location : Storage.Location}
    (h : store.location = some location) {s t : σ}
    {answer : Except Storage.BackendError (Option String)}
    (hread : (env.documents.read location.uri).run s = (answer, t)) :
    store.retrieve env.traced.documents s
      = ⟨store.load location.uri answer, t, [.read location.uri answer]⟩ := by
  unfold retrieve
  rw [h]
  have hcall : env.traced.documents.read location.uri s
      = ⟨answer, t, [.read location.uri answer]⟩ := by
    simp only [Surroundings.traced, hread]
  exact Traced.bind_apply hcall

/-- A store without a location keeps the mark itself. -/
lemma record_traced_of_none {store : Store} (h : store.location = none) (mark : Mark) (s : σ) :
    store.record env.traced.documents mark s
      = ⟨(.ok (), { store with current := store.current.update mark }), s, []⟩ := by
  unfold record
  rw [h]
  rfl

/-- A store with a location moves on with the document it has written, and not at all when the
document is not written. -/
lemma record_traced_of_some {store : Store} {location : Storage.Location}
    (h : store.location = some location) (mark : Mark) {s t : σ}
    {answer : Except Storage.BackendError Unit}
    (hwrite : (env.documents.write location (document store.current.column mark).toJson).run s
      = (answer, t)) :
    store.record env.traced.documents mark s
      = ⟨(answer.mapError (.access location.uri),
          match answer with
          | .ok () => { store with current := store.current.update mark }
          | .error _ => store), t,
        [.write location (document store.current.column mark).toJson answer]⟩ := by
  unfold record
  rw [h]
  have hcall : env.traced.documents.write location (document store.current.column mark).toJson s
      = ⟨answer, t, [.write location (document store.current.column mark).toJson answer]⟩ := by
    simp only [Surroundings.traced, hwrite]
  simp only [toDocument_update]
  rw [Traced.bind_apply hcall]
  cases answer <;> rfl

end Watermark.Store

/-! ### The cycle -/

/-- A traced cycle without the notes of its calls is the cycle. -/
theorem Cycle.erase_tryPoll {σ : Type} (env : Surroundings (StateM σ)) (c : Cycle) :
    (tryPoll env.traced c).erase = tryPoll env c := by
  have h := map_tryPoll Traced.erasure env.traced c
  rw [Surroundings.map_traced] at h
  exact h.symm

end Tidemark
