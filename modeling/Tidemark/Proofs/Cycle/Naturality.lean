import Mathlib.Tactic.Common
import Tidemark.Daemon

/-!
# A cycle in another monad

A cycle is one program for every monad in which there are an engine, a backend and a clock.  A
translation of one monad into another that keeps `pure` and `bind` therefore takes the cycle in the
one, with its surroundings, to the cycle in the other (`map_tryPoll`).  So whatever a translation
adds to the calls of a cycle or leaves out, the cycle itself is not affected.
-/

namespace Tidemark

/-- A map of computations that keeps `pure` and `bind`. -/
structure Translation (m n : Type → Type) [Monad m] [Monad n] where
  app : {α : Type} → m α → n α
  app_pure : ∀ {α : Type} (a : α), app (pure a) = pure a
  app_bind : ∀ {α β : Type} (x : m α) (f : α → m β), app (x >>= f) = app x >>= fun a => app (f a)

variable {m n : Type → Type} [Monad m] [Monad n] (φ : Translation m n)

/-- Surroundings whose calls are translated. -/
def Surroundings.map (env : Surroundings m) : Surroundings n where
  engine.execute plan point := φ.app (env.engine.execute plan point)
  documents.read uri := φ.app (env.documents.read uri)
  documents.write location body := φ.app (env.documents.write location body)
  now := φ.app env.now

variable (env : Tidemark.Surroundings m)

namespace Watermark.Store

lemma map_retrieve (store : Store) :
    store.retrieve (env.map φ).documents = φ.app (store.retrieve env.documents) := by
  unfold retrieve
  cases store.location with
  | none => exact (φ.app_pure _).symm
  | some location =>
    dsimp only
    rw [φ.app_bind]
    exact bind_congr fun answer => (φ.app_pure _).symm

lemma map_record (store : Store) (mark : Mark) :
    store.record (env.map φ).documents mark = φ.app (store.record env.documents mark) := by
  unfold record
  cases store.location with
  | none => exact (φ.app_pure _).symm
  | some location =>
    simp only [toDocument_update]
    rw [φ.app_bind]
    refine bind_congr fun answer => ?_
    cases answer <;> exact (φ.app_pure _).symm

end Watermark.Store

namespace Cycle

open Watermark.Store

lemma map_persist (rows : List Engine.Row) (value : String) (c : Cycle) :
    persist (env.map φ) rows value c = φ.app (persist env rows value c) := by
  unfold persist
  rw [φ.app_bind]
  refine bind_congr fun now => ?_
  dsimp only
  rw [φ.app_bind, map_record]
  refine bind_congr fun outcome => ?_
  rcases outcome with ⟨result, store⟩
  cases result <;> exact (φ.app_pure _).symm

lemma map_advance (result : Engine.QueryResult) (plan : Query.Plan) (c : Cycle) :
    advance (env.map φ) result plan c = φ.app (advance env result plan c) := by
  unfold advance
  rw [φ.app_bind]
  refine bind_congr fun answer => ?_
  cases answer with
  | error e => exact (φ.app_pure _).symm
  | ok a =>
    dsimp only
    cases Engine.maxValue a.rows with
    | error e => exact (φ.app_pure _).symm
    | ok value => exact map_persist φ env result.rows value _

lemma map_readRows (previous : Option String) (c : Cycle) :
    readRows (env.map φ) previous c = φ.app (readRows env previous c) := by
  unfold readRows
  rcases c.rewriter.rowPlan previous with ⟨plan, rewriter⟩
  rw [φ.app_bind]
  refine bind_congr fun answer => ?_
  cases answer with
  | error e => exact (φ.app_pure _).symm
  | ok r =>
    dsimp only
    split
    · exact (φ.app_pure _).symm
    · exact (φ.app_pure _).symm
    · exact map_advance φ env r _ _

lemma map_previousValue (c : Cycle) :
    previousValue (env.map φ) c = φ.app (previousValue env c) := by
  unfold previousValue
  split
  · rw [φ.app_bind, map_retrieve]
    exact bind_congr fun outcome => (φ.app_pure _).symm
  · exact (φ.app_pure _).symm

lemma map_run (c : Cycle) : run (env.map φ) c = φ.app (run env c) := by
  unfold run
  rw [φ.app_bind, map_previousValue]
  refine bind_congr fun outcome => ?_
  rcases outcome with ⟨previous, d⟩
  cases previous with
  | error e => exact (φ.app_pure _).symm
  | ok previous => exact map_readRows φ env previous d

/-- A cycle with translated surroundings is the translated cycle. -/
theorem map_tryPoll (c : Cycle) : tryPoll (env.map φ) c = φ.app (tryPoll env c) := by
  unfold tryPoll
  rw [φ.app_bind, map_run]
  exact bind_congr fun outcome => (φ.app_pure _).symm

lemma map_poll (c : Cycle) : poll (env.map φ) c = φ.app (poll env c) := by
  unfold poll
  rw [φ.app_bind, map_tryPoll]
  refine bind_congr fun outcome => ?_
  rcases outcome with ⟨result, d⟩
  cases result <;> exact (φ.app_pure _).symm

end Cycle

namespace Daemon

/-- A reported cycle with translated surroundings is the translated cycle. -/
theorem map_runOnce (c : Cycle) :
    runOnce (env.map φ) c = φ.app (runOnce env c) := by
  unfold runOnce
  rw [φ.app_bind, Cycle.map_poll]
  exact bind_congr fun outcome => (φ.app_pure _).symm

end Daemon

end Tidemark
