import Tidemark.Proofs.Cycle.Mirror
import Tidemark.Proofs.Watermark.DocumentText

/-!
# Starting a job anew

A constrained job with a stored watermark can be started anew at any time: nobody notices.  In the
same surroundings the results, the calls and the world are the same (`Mirror.same`).  If two runs
have clocks of their own, and an engine and a backend that answer by the calls made to them so far
(`Responder`), then the results are the same and the calls are the same up to the times in the
documents (`Responder.mirror`), provided that the answers do not depend on these times either
(`Responder.Timeless`).
-/

namespace Tidemark

open Watermark (AnswerAlike SameReading)

/-! ### The same surroundings -/

lemma Watermark.answerAlike_eq (answer : Except Storage.BackendError (Option String)) :
    AnswerAlike Eq answer answer := by
  rcases answer with e | _ | t
  · exact .error e
  · exact .absent
  · exact .present rfl

/-- Surroundings mirror themselves. -/
def Mirror.same {σ : Type} (env : Surroundings (StateM σ)) : Mirror env env where
  world := Eq
  instant := Eq
  text := Eq
  body := Eq
  execute plan point h := by subst h; exact ⟨rfl, rfl⟩
  read uri h := by subst h; exact ⟨Watermark.answerAlike_eq _, rfl⟩
  write location h hb := by subst h hb; exact ⟨rfl, rfl⟩
  clock h := by subst h; exact ⟨rfl, rfl⟩
  sameReading h := by subst h; rfl
  document column value count h := by subst h; rfl

/-- Calls that match exactly are equal. -/
lemma eq_of_exchangeAlike {x y : Exchange} (h : ExchangeAlike Eq Eq x y) : x = y := by
  cases h with
  | execute plan point answer => rfl
  | read uri h =>
    cases h with
    | error e => rfl
    | absent => rfl
    | present h => rw [h]
  | write location h answer => rw [h]

lemma eq_of_forall₂_exchangeAlike {xs ys : List Exchange}
    (h : List.Forall₂ (ExchangeAlike Eq Eq) xs ys) : xs = ys :=
  List.forall₂_eq_eq_eq ▸ h.imp fun _ _ => eq_of_exchangeAlike

/-! ### The same but for the time -/

/-- Texts that are equal, or hold the same watermark up to its time. -/
def SameText (t t' : String) : Prop :=
  t = t' ∨ ∃ w w', Watermark.ofText t = .ok w ∧ Watermark.ofText t' = .ok w' ∧
    w.untimed = w'.untimed

/-- Bodies that are equal, or documents of the same mark up to its time. -/
def SameBody (b b' : Json) : Prop :=
  b = b' ∨ ∃ (column value : String) (count : UInt64) (i i' : Time.Instant), i.Valid ∧ i'.Valid ∧
    b = (Watermark.Store.document column ⟨value, count, i⟩).toJson ∧
    b' = (Watermark.Store.document column ⟨value, count, i'⟩).toJson

lemma sameReading_of_sameText {t t' : String} (h : SameText t t') : SameReading t t' := by
  rcases h with rfl | ⟨w, w', hw, hw', huntimed⟩
  · rfl
  · unfold SameReading
    rw [hw, hw']
    exact congrArg Except.ok huntimed

/-- Bodies that are the same but for the time have compact texts that are so, too. -/
lemma sameText_compact {b b' : Json} (h : SameBody b b') : SameText b.compact b'.compact := by
  rcases h with rfl | ⟨column, value, count, i, i', hi, hi', rfl, rfl⟩
  · exact Or.inl rfl
  · refine Or.inr ⟨_, _, Watermark.ofText_compact hi column,
      Watermark.ofText_compact hi' column, ?_⟩
    rfl

/-- Calls that are the same but for the times in documents. -/
def Exchange.SameButTime : Exchange → Exchange → Prop :=
  ExchangeAlike SameText SameBody

lemma Exchange.sameButTime_refl (x : Exchange) : x.SameButTime x := by
  cases x with
  | execute plan point answer => exact .execute plan point answer
  | read uri answer =>
    exact .read uri ((Watermark.answerAlike_eq answer).mono fun h => Or.inl h)
  | write location body answer => exact .write location (Or.inl rfl) answer

/-- An engine and a backend that answer by the calls made to them so far. -/
structure Responder where
  execute : List Exchange → Query.Plan → Option Engine.PointInTime →
    Except Engine.EngineError Engine.QueryResult
  read : List Exchange → String → Except Storage.BackendError (Option String)
  write : List Exchange → Storage.Location → Json → Except Storage.BackendError Unit

namespace Responder

/-- The surroundings of a responder, with a clock of their own: the world is the calls made so far
and the number of times that the clock was read. -/
def surroundings (r : Responder) (clock : ℕ → Time.Instant) :
    Surroundings (StateM (List Exchange × ℕ)) where
  engine.execute plan point := fun w =>
    (r.execute w.1 plan point, w.1 ++ [.execute plan point (r.execute w.1 plan point)], w.2)
  documents.read uri := fun w =>
    (r.read w.1 uri, w.1 ++ [.read uri (r.read w.1 uri)], w.2)
  documents.write location body := fun w =>
    (r.write w.1 location body, w.1 ++ [.write location body (r.write w.1 location body)], w.2)
  now := fun w => (clock w.2, w.1, w.2 + 1)

/-- The answers do not depend on the times in the documents that were read and written. -/
structure Timeless (r : Responder) : Prop where
  execute : ∀ {h h'} plan point, List.Forall₂ Exchange.SameButTime h h' →
    r.execute h plan point = r.execute h' plan point
  read : ∀ {h h'} uri, List.Forall₂ Exchange.SameButTime h h' →
    AnswerAlike SameText (r.read h uri) (r.read h' uri)
  write : ∀ {h h' b b'} location, List.Forall₂ Exchange.SameButTime h h' → SameBody b b' →
    r.write h location b = r.write h' location b'

/-- With clocks of their own, the surroundings of a responder mirror each other up to times. -/
def mirror {r : Responder} (hr : r.Timeless) {clock clock' : ℕ → Time.Instant}
    (hclock : ∀ n, (clock n).Valid) (hclock' : ∀ n, (clock' n).Valid) :
    Mirror (r.surroundings clock) (r.surroundings clock') where
  world w w' := List.Forall₂ Exchange.SameButTime w.1 w'.1
  instant i i' := i.Valid ∧ i'.Valid
  text := SameText
  body := SameBody
  execute {w w'} plan point h := by
    have hanswer : r.execute w.1 plan point = r.execute w'.1 plan point := hr.execute plan point h
    refine ⟨hanswer, List.rel_append h (.cons ?_ .nil)⟩
    rw [← hanswer]
    exact .execute plan point _
  read uri h :=
    ⟨hr.read uri h, List.rel_append h (.cons (.read uri (hr.read uri h)) .nil)⟩
  write {w w' b b'} location h hb := by
    have hanswer : r.write w.1 location b = r.write w'.1 location b' := hr.write location h hb
    refine ⟨hanswer, List.rel_append h (.cons ?_ .nil)⟩
    rw [← hanswer]
    exact .write location hb _
  clock h := ⟨⟨hclock _, hclock' _⟩, h⟩
  sameReading := sameReading_of_sameText
  document column value count h :=
    Or.inr ⟨column, value, count, _, _, h.1, h.2, rfl, rfl⟩

end Responder

/-! ### Restarts -/

namespace Cycle

/-- **Starting a job anew changes nothing.**  Let a constrained job have a stored watermark, and let
it be started anew before any of its polls.  In the same surroundings its results, its calls and the
world after them are those of the job that is never started anew.  With an engine and a backend that
answer by the calls made to them so far, whatever these calls were at first, and with a clock of its
own, its results are the same, and so are its calls up to the times in its documents. -/
theorem restarts_are_transparent {c : Cycle} (hk : c.rewriter.isConstrained = true)
    (hl : c.store.isDurable = true) (flags : List Bool) :
    (∀ {σ : Type} (env : Surroundings (StateM σ)) (s : σ),
      let r := polls env.traced flags c s
      let r' := polls env.traced (List.replicate flags.length false) c s
      r.value.1 = r'.value.1 ∧ r.exchanges = r'.exchanges ∧ r.world = r'.world) ∧
    ∀ (answers : Responder), answers.Timeless → ∀ (clock clock' : ℕ → Time.Instant),
      (∀ n, (clock n).Valid) → (∀ n, (clock' n).Valid) → ∀ (history : List Exchange),
      let r := polls (answers.surroundings clock).traced flags c (history, 0)
      let r' := polls (answers.surroundings clock').traced (List.replicate flags.length false) c
        (history, 0)
      r.value.1 = r'.value.1 ∧ List.Forall₂ Exchange.SameButTime r.exchanges r'.exchanges := by
  have hconstraint : c.description.constraint.isSome = true := hk
  obtain ⟨l, hlocation⟩ : ∃ l, c.description.location = some l := Option.isSome_iff_exists.1 hl
  have hlength : flags.length = (List.replicate flags.length false).length :=
    List.length_replicate.symm
  refine ⟨?_, ?_⟩
  · intro σ env s
    obtain ⟨hresults, hworld, hcalls⟩ :=
      (Mirror.same env).sim_polls hconstraint hlocation hlength rfl rfl s s rfl
    exact ⟨hresults, eq_of_forall₂_exchangeAlike hcalls, hworld⟩
  · intro answers htimeless clock clock' hclock hclock' history
    have hhistory : List.Forall₂ Exchange.SameButTime history history :=
      List.forall₂_same.2 fun x _ => x.sameButTime_refl
    obtain ⟨hresults, -, hcalls⟩ :=
      (Responder.mirror htimeless hclock hclock').sim_polls hconstraint hlocation hlength rfl rfl
        (history, 0) (history, 0) hhistory
    exact ⟨hresults, hcalls⟩

/-- The text that was written last under a URI. -/
def storedText (uri : String) : List Exchange → Option String
  | [] => none
  | x :: xs =>
    match storedText uri xs, x with
    | some t, _ => some t
    | none, .write l b (.ok ()) => if l.uri = uri then some b.compact else none
    | none, _ => none

/-- An engine that gives one row for every plan, and a backend that keeps what is written. -/
def oneRowResponder : Responder where
  execute _ _ point := .ok ⟨[⟨[(Query.Rewriter.maxField, .string "6")]⟩], point.getD ⟨7⟩⟩
  read history uri := .ok (storedText uri history)
  write _ _ _ := .ok ()

lemma storedText_alike (uri : String) {h h' : List Exchange}
    (hh : List.Forall₂ Exchange.SameButTime h h') :
    AnswerAlike SameText (.ok (storedText uri h)) (.ok (storedText uri h')) := by
  induction hh with
  | nil => exact .absent
  | @cons x x' xs xs' hx hxs ih =>
    simp only [storedText]
    generalize storedText uri xs = t at ih ⊢
    generalize storedText uri xs' = t' at ih ⊢
    cases ih with
    | present ht => exact .present ht
    | absent =>
      cases hx with
      | execute plan point answer => exact .absent
      | read uri hanswer => exact .absent
      | write location hb answer =>
        cases answer with
        | error e => exact .absent
        | ok u =>
          simp only
          split
          · exact .present (sameText_compact hb)
          · exact .absent

/-- A clock that always shows the beginning of one day of May. -/
def stoppedClock (day : ℕ) : ℕ → Time.Instant :=
  fun _ => ⟨2024, 5, day, 0, 0, 0, 0⟩

/-- Two clocks, and a job that is started anew before its second poll. -/
theorem restart_of_authors_is_transparent :
    authors.start.rewriter.isConstrained = true ∧ authors.start.store.isDurable = true ∧
      oneRowResponder.Timeless ∧
      let r := polls (oneRowResponder.surroundings (stoppedClock 1)).traced [false, true, false]
        authors.start ([], 0)
      let r' := polls (oneRowResponder.surroundings (stoppedClock 2)).traced [false, false, false]
        authors.start ([], 0)
      r.value.1 = r'.value.1 ∧ List.Forall₂ Exchange.SameButTime r.exchanges r'.exchanges := by
  have hk : authors.start.rewriter.isConstrained = true := rfl
  have hl : authors.start.store.isDurable = true := rfl
  have htimeless : oneRowResponder.Timeless :=
    ⟨fun _ _ _ => rfl, fun uri hh => storedText_alike uri hh, fun _ _ _ => rfl⟩
  have hfirst : Time.Instant.Valid ⟨2024, 5, 1, 0, 0, 0, 0⟩ := by decide
  have hsecond : Time.Instant.Valid ⟨2024, 5, 2, 0, 0, 0, 0⟩ := by decide
  have hflags : List.replicate [false, true, false].length false = [false, false, false] := rfl
  have h := (restarts_are_transparent hk hl [false, true, false]).2 oneRowResponder htimeless
    (stoppedClock 1) (stoppedClock 2) (fun _ => hfirst) (fun _ => hsecond) []
  rw [hflags] at h
  exact ⟨hk, hl, htimeless, h⟩

end Cycle

end Tidemark
