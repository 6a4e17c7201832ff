import Mathlib.Tactic.Common

/-!
# Steps in a row

A computation in `Except` that gives a value has taken every one of its steps.  These lemmas take
the last step apart, so that a fact about the value is traced back to the step that established it.
A computation over a world goes on from the world in which its first step ends.
-/

namespace Tidemark

variable {ε α β : Type}

/-- Where two steps in a row give a value, the first one gives one, and the second goes on from
it. -/
lemma exists_of_bind_eq_ok {x : Except ε α} {f : α → Except ε β} {b : β}
    (h : (x >>= f) = .ok b) : ∃ a, x = .ok a ∧ f a = .ok b := by
  cases x with
  | error e => cases h
  | ok a => exact ⟨a, rfl, h⟩

/-- A value that was changed after a step was given by that step. -/
lemma exists_of_map_eq_ok {x : Except ε α} {f : α → β} {b : β} (h : x.map f = .ok b) :
    ∃ a, x = .ok a ∧ f a = b := by
  cases x with
  | error e => cases h
  | ok a => exact ⟨a, rfl, Except.ok.inj h⟩

/-- A value that is there was given. -/
lemma eq_ok_of_toOption {x : Except ε α} {a : α} (h : x.toOption = some a) : x = .ok a := by
  cases x with
  | error e => cases h
  | ok b => exact congrArg Except.ok (Option.some.inj h)

/-- Two computations in a row over a world, the first of them run. -/
lemma run_bind_of {σ : Type} {α β : Type} {x : StateM σ α} {s t : σ} {a : α}
    (hx : x.run s = (a, t)) (f : α → StateM σ β) : (x >>= f).run s = (f a).run t := by
  change (f (x.run s).1).run (x.run s).2 = _
  rw [hx]

end Tidemark
