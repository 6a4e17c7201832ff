import Tidemark.Proofs.Cycle.Run

/-!
# The phases of a cycle

A job is idle between its cycles.  A cycle takes it through one, two, three or four other phases and
back, and notes each change of phase under its own number (`Walked`); so there are four courses
(`Course`).  Which of them a cycle takes is told from what it retrieves and from its calls of the
engine (`Course.Follows`): the failure that ends the cycle, and not what has become of the mark,
decides how far it comes.  What holds of one cycle of an idle job holds of every cycle of a run,
because each leaves the job idle and counts itself (`courses_follow_from_answers`).
-/

namespace Tidemark

/-- The changes from each phase of a list to the next one, in a numbered cycle. -/
def Transition.along (n : ℕ) : List Phase → List Transition
  | p :: q :: ps => ⟨n, p, q⟩ :: along n (q :: ps)
  | _ => []

/-- With one phase more there is one change more. -/
lemma Transition.along_concat (n : ℕ) {ps : List Phase} {q : Phase}
    (hq : ps.getLast? = some q) (p : Phase) :
    along n (ps ++ [p]) = along n ps ++ [⟨n, q, p⟩] := by
  induction ps with
  | nil => cases hq
  | cons r ps ih =>
    cases ps with
    | nil =>
      obtain rfl := Option.some.inj hq
      rfl
    | cons r' ps =>
      rw [List.getLast?_cons_cons] at hq
      exact congrArg (_ :: ·) (ih hq)

namespace Cycle

/-! ### Courses -/

/-- The courses that a cycle can take. -/
inductive Course where
  /-- Nothing is retrieved. -/
  | unretrieved
  /-- The cycle ends with the rows, if there are any. -/
  | read
  /-- The cycle ends with the question for the greatest value. -/
  | asked
  /-- The cycle ends with the recording of the greatest value. -/
  | persisted
  deriving DecidableEq, Repr

namespace Course

/-- The phases of a course. -/
def phases : Course → List Phase
  | unretrieved => [.idle, .building, .idle]
  | read => [.idle, .building, .executingRows, .idle]
  | asked => [.idle, .building, .executingRows, .executingMax, .idle]
  | persisted => [.idle, .building, .executingRows, .executingMax, .persisting, .idle]

/-- Every course comes back. -/
lemma getLast?_phases (course : Course) : course.phases.getLast? = some .idle := by
  cases course <;> rfl

/-- Two courses differ in their changes of phase. -/
lemma eq_of_along_eq {n : ℕ} {course course' : Course}
    (h : Transition.along n course.phases = Transition.along n course'.phases) :
    course = course' := by
  cases course <;> cases course' <;> first | rfl | simp [phases, Transition.along] at h

/-- What a course follows from: whether the job is constrained, what its store retrieves, and the
calls of its engine with their answers. -/
def Follows (constrained : Bool) (retrieved : Except Watermark.StoreError (Option String))
    (calls : List EngineCall) : Course → Prop
  | unretrieved => constrained = true ∧ ∃ e, retrieved = .error e
  | read => ∃ rowCall later, calls = rowCall :: later ∧
      ((∃ e, rowCall.answer = .error e) ∨ (∃ page, rowCall.answer = .ok page ∧ page.rows = []) ∨
        constrained = false)
  | asked => ∃ rowCall maxCall, calls = [rowCall, maxCall] ∧
      ((∃ e, maxCall.answer = .error e) ∨
        ∃ reply e, maxCall.answer = .ok reply ∧ Engine.maxValue reply.rows = .error e)
  | persisted => ∃ rowCall maxCall reply value, calls = [rowCall, maxCall] ∧
      maxCall.answer = .ok reply ∧ Engine.maxValue reply.rows = .ok value

/-- The course of a cycle with all that it follows from. -/
inductive Taken : Bool → Except Watermark.StoreError (Option String) → List EngineCall →
    Course → Prop
  | unretrieved (e : Watermark.StoreError) : Taken true (.error e) [] unretrieved
  | read {constrained : Bool} {retrieved : Except Watermark.StoreError (Option String)}
    {rowCall : EngineCall} (hretrieved : constrained = true → ∃ v, retrieved = .ok v)
    (h : (∃ e, rowCall.answer = .error e) ∨ (∃ page, rowCall.answer = .ok page ∧ page.rows = []) ∨
      constrained = false) : Taken constrained retrieved [rowCall] read
  | asked {v : Option String} {rowCall maxCall : EngineCall} {page : Engine.QueryResult}
    (hpage : rowCall.answer = .ok page) (hrows : page.rows ≠ [])
    (h : (∃ e, maxCall.answer = .error e) ∨
      ∃ reply e, maxCall.answer = .ok reply ∧ Engine.maxValue reply.rows = .error e) :
    Taken true (.ok v) [rowCall, maxCall] asked
  | persisted {v : Option String} {rowCall maxCall : EngineCall} {page reply : Engine.QueryResult}
    {value : String} (hpage : rowCall.answer = .ok page) (hrows : page.rows ≠ [])
    (hreply : maxCall.answer = .ok reply) (hvalue : Engine.maxValue reply.rows = .ok value) :
    Taken true (.ok v) [rowCall, maxCall] persisted

/-- The course that is taken follows, and no other does. -/
lemma Taken.follows_iff {constrained : Bool}
    {retrieved : Except Watermark.StoreError (Option String)} {calls : List EngineCall}
    {course : Course} (h : Taken constrained retrieved calls course) (course' : Course) :
    course'.Follows constrained retrieved calls ↔ course' = course := by
  cases h with
  | unretrieved e => cases course' <;> simp [Follows]
  | read hretrieved h =>
    cases course' with
    | unretrieved =>
      -- the engine was asked, so that the store has given something if it was asked at all
      refine iff_of_false ?_ nofun
      rintro ⟨hk, e, he⟩
      obtain ⟨v, hv⟩ := hretrieved hk
      rw [hv] at he
      cases he
    | read => exact iff_of_true ⟨_, [], rfl, h⟩ rfl
    | asked => simp [Follows]
    | persisted => simp [Follows]
  | asked hpage hrows h =>
    cases course' with
    | unretrieved => simp [Follows]
    | read => simp [Follows, hpage, hrows]
    | asked => exact iff_of_true ⟨_, _, rfl, h⟩ rfl
    | persisted =>
      refine iff_of_false ?_ nofun
      rintro ⟨_, _, reply, value, hcalls, hreply, hvalue⟩
      cases hcalls
      rcases h with ⟨e, he⟩ | ⟨reply', e, hreply', he⟩
      · rw [he] at hreply
        cases hreply
      · obtain rfl := Except.ok.inj (hreply.symm.trans hreply')
        rw [he] at hvalue
        cases hvalue
  | persisted hpage hrows hreply hvalue =>
    cases course' with
    | unretrieved => simp [Follows]
    | read => simp [Follows, hpage, hrows]
    | asked => simp [Follows, hreply, hvalue]
    | persisted => exact iff_of_true ⟨_, _, _, _, rfl, hreply, hvalue⟩ rfl

end Course

/-! ### Walking through the phases -/

/-- A job has walked through phases in a numbered cycle, and is in the last one. -/
structure Walked (c : Cycle) (n : ℕ) (ps : List Phase) : Prop where
  count : c.count = n
  journal : c.journal = Transition.along n ps
  phase : ps.getLast? = some c.phase

/-- A job that enters another phase has walked one phase further. -/
lemma Walked.enter {c : Cycle} {n : ℕ} {ps : List Phase} (h : Walked c n ps) {p : Phase}
    (hlast : ps.getLast? ≠ some p) : Walked (c.enter p) n (ps ++ [p]) where
  count := by rw [count_enter, h.count]
  journal := by
    have hne : c.phase ≠ p := fun heq => hlast (heq ▸ h.phase)
    rw [journal_enter c hne, h.journal, h.count, Transition.along_concat n h.phase]
  phase := by rw [List.getLast?_concat, phase_enter]

section Step

variable {σ : Type} {env : Surroundings (StateM σ)} {c : Cycle} {s : σ}

lemma walked_underway (hidle : c.phase = .idle) (store : Watermark.Store) :
    Walked (c.underway store) (c.count + 1) [.idle, .building] := by
  have hbegin : Walked c.begin (c.count + 1) [.idle] := ⟨rfl, rfl, congrArg some hidle.symm⟩
  obtain ⟨hcount, hjournal, hphase⟩ := hbegin.enter (p := .building) (by decide)
  exact ⟨hcount, hjournal, hphase⟩

lemma Retrieved.walked {r : Traced.Run σ Retrieval} (h : Retrieved env c s r)
    (hidle : c.phase = .idle) : Walked r.value.2 (c.count + 1) [.idle, .building] := by
  cases h <;> exact walked_underway hidle _

/-- Only a job with a constraint can fail to retrieve something. -/
lemma Retrieved.isConstrained_of_error {r : Traced.Run σ Retrieval} (h : Retrieved env c s r)
    {e : Watermark.StoreError} (he : r.value.1 = .error e) : c.rewriter.isConstrained = true := by
  cases h with
  | unasked hk => cases he
  | remembered hk hl => exact hk
  | read hk hl hread => exact hk

lemma RowCall.walked_after (q : RowCall env c s) (hidle : c.phase = .idle) :
    Walked q.after (c.count + 1) [.idle, .building, .executingRows] := by
  obtain ⟨hcount, hjournal, hphase⟩ := q.retrieved_cases.walked hidle
  have hjob : Walked { q.job with rewriter := (q.job.rewriter.rowPlan q.previous).2 }
      (c.count + 1) [.idle, .building] := ⟨hcount, hjournal, hphase⟩
  exact hjob.enter (by decide)

lemma MaxCall.walked_after (q : MaxCall env c s) (hidle : c.phase = .idle) :
    Walked q.after (c.count + 1) [.idle, .building, .executingRows, .executingMax] :=
  (q.toRowCall.walked_after hidle).enter (by decide)

lemma MaxCall.walked_marked (q : MaxCall env c s) (hidle : c.phase = .idle)
    (store : Watermark.Store) : Walked (q.marked store) (c.count + 1)
      [.idle, .building, .executingRows, .executingMax, .persisting] := by
  obtain ⟨hcount, hjournal, hphase⟩ := (q.walked_after hidle).enter (p := .persisting) (by decide)
  exact ⟨hcount, hjournal, hphase⟩

/-- A cycle that goes on has retrieved something, if it is constrained. -/
lemma RowCall.exists_retrieved (q : RowCall env c s) (hk : c.rewriter.isConstrained = true) :
    ∃ v, (c.store.retrieve env.traced.documents s).value.1 = .ok v :=
  ⟨q.previous, retrieve_eq_of_retrieval hk q.retrieved⟩

/-- A cycle that does not learn the greatest value comes as far as the question for it. -/
lemma MaxCall.taken_asked (q : MaxCall env c s) (h : (∃ e, q.reply = .error e) ∨
      ∃ reply e, q.reply = .ok reply ∧ Engine.maxValue reply.rows = .error e) :
    Course.asked.Taken c.rewriter.isConstrained
      (c.store.retrieve env.traced.documents s).value.1 (engineCalls q.exchanges) := by
  obtain ⟨v, hv⟩ := q.exists_retrieved q.isConstrained
  rw [q.engineCalls_exchanges, q.isConstrained, hv]
  exact .asked q.answered q.rows_ne_nil h

/-- A cycle that learns the greatest value goes on to record it. -/
lemma MaxCall.taken_persisted (q : MaxCall env c s) {reply : Engine.QueryResult} {value : String}
    (hreply : q.reply = .ok reply) (hvalue : Engine.maxValue reply.rows = .ok value)
    {r : Traced.Run σ Record} (hrecord : Recording env q.job.store (q.mark value)
      (env.now.run q.finish).2 r) :
    Course.persisted.Taken c.rewriter.isConstrained
      (c.store.retrieve env.traced.documents s).value.1
      (engineCalls (q.exchanges ++ r.exchanges)) := by
  obtain ⟨v, hv⟩ := q.exists_retrieved q.isConstrained
  rw [engineCalls_append, q.engineCalls_exchanges, hrecord.engineCalls_eq, q.isConstrained, hv]
  exact .persisted q.answered q.rows_ne_nil hreply hvalue

/-- However a cycle of an idle job ends, the job has walked along a course that was to be taken. -/
theorem Exit.exists_course {r : Traced.Run σ Outcome} (h : Exit env c s r)
    (hidle : c.phase = .idle) :
    ∃ course : Course, Walked r.value.2 (c.count + 1) course.phases ∧
      course.Taken c.rewriter.isConstrained
        (c.store.retrieve env.traced.documents s).value.1 (engineCalls r.exchanges) := by
  cases h with
  | @unretrieved e d t xs h =>
    have hretrieved := retrieved_retrieval env c s
    rw [h] at hretrieved
    have hk := hretrieved.isConstrained_of_error rfl
    refine ⟨.unretrieved, (hretrieved.walked hidle).enter (by decide), ?_⟩
    rw [hk, retrieve_eq_of_retrieval hk h, hretrieved.engineCalls_eq]
    exact .unretrieved e
  | rowsRefused q h =>
    refine ⟨.read, (q.walked_after hidle).enter (by decide), ?_⟩
    rw [q.engineCalls_exchanges]
    exact .read q.exists_retrieved (.inl ⟨_, h⟩)
  | drained q h hrows =>
    refine ⟨.read, (q.walked_after hidle).enter (by decide), ?_⟩
    rw [q.engineCalls_exchanges]
    exact .read q.exists_retrieved (.inr (.inl ⟨_, h, hrows⟩))
  | unconstrained q h hrows hplan =>
    refine ⟨.read, (q.walked_after hidle).enter (by decide), ?_⟩
    rw [q.engineCalls_exchanges]
    exact .read q.exists_retrieved (.inr (.inr (q.maxPlan_eq_none_iff.1 hplan)))
  | maxRefused q h =>
    refine ⟨.asked, (q.walked_after hidle).enter (by decide), ?_⟩
    exact q.taken_asked (.inl ⟨_, h⟩)
  | malformed q h hvalue =>
    refine ⟨.asked, (q.walked_after hidle).enter (by decide), ?_⟩
    exact q.taken_asked (.inr ⟨_, _, h, hvalue⟩)
  | unrecorded q h hvalue hrecord =>
    refine ⟨.persisted, (q.walked_marked hidle _).enter (by decide), ?_⟩
    exact q.taken_persisted h hvalue (q.recording_cases hrecord)
  | recorded q h hvalue hrecord =>
    refine ⟨.persisted, (q.walked_marked hidle _).enter (by decide), ?_⟩
    exact q.taken_persisted h hvalue (q.recording_cases hrecord)

/-- A cycle of an idle job leaves it idle. -/
lemma phase_tryPoll (env : Surroundings (StateM σ)) (hidle : c.phase = .idle) (s : σ) :
    (tryPoll env.traced c s).value.2.phase = .idle := by
  obtain ⟨course, hwalked, -⟩ := (exit_tryPoll env c s).exists_course hidle
  exact Option.some.inj (hwalked.phase.symm.trans course.getLast?_phases)

end Step

/-! ### Runs -/

section Run

variable {σ : Type} (env : Surroundings (StateM σ))

/-- A job that is idle at first is idle before each of its polls, and counts them. -/
lemma rests_of_getElem?_moments (n : ℕ) {c : Cycle} {s : σ} (hidle : c.phase = .idle) {i : ℕ}
    {p : Cycle × σ} (hp : (moments env (List.replicate n false) c s)[i]? = some p) :
    p.1.phase = .idle ∧ p.1.count = c.count + i := by
  induction n generalizing c s i with
  | zero => cases hp
  | succ n ih =>
    rw [List.replicate_succ, moments] at hp
    cases i with
    | zero =>
      obtain rfl := Option.some.inj hp
      exact ⟨hidle, rfl⟩
    | succ i =>
      obtain ⟨hphase, hcount⟩ := ih (phase_tryPoll env hidle s) hp
      refine ⟨hphase, hcount.trans ?_⟩
      rw [count_tryPoll, Nat.add_assoc, Nat.add_comm 1]

/-- A job that is idle at first is idle after its polls, and has counted them. -/
lemma rests_polls (n : ℕ) {c : Cycle} (hidle : c.phase = .idle) (s : σ) :
    (polls env.traced (List.replicate n false) c s).value.2.phase = .idle ∧
      (polls env.traced (List.replicate n false) c s).value.2.count = c.count + n := by
  induction n generalizing c s with
  | zero => exact ⟨hidle, rfl⟩
  | succ n ih =>
    rw [List.replicate_succ, polls_cons]
    obtain ⟨hphase, hcount⟩ := ih (phase_tryPoll env hidle s) (tryPoll env.traced c s).world
    refine ⟨hphase, hcount.trans ?_⟩
    rw [count_tryPoll, Nat.add_assoc, Nat.add_comm 1]

/-- **A job rests between its cycles, and what a cycle meets with decides on its course.**  For
every query, every store and every number of polls, whatever the engine and the backend do: the job
is idle and has counted its polls before and after each of them.  The changes of phase that a poll
notes are those of one of the four courses, all under the number of the poll, and of each course
exactly if that course follows from what the store retrieves and from the calls of the engine. -/
theorem courses_follow_from_answers (rewriter : Query.Rewriter) (store : Watermark.Store) (n : ℕ)
    (s : σ) :
    let run := moments env (List.replicate n false) (new rewriter store) s
    let last := (polls env.traced (List.replicate n false) (new rewriter store) s).value.2
    run.length = n ∧ last.phase = .idle ∧ last.count = n ∧
      ∀ i p, run[i]? = some p →
        let r := pollAt env p
        let retrieved := (p.1.store.retrieve env.traced.documents p.2).value.1
        (tryPoll env p.1).run p.2 = (r.value, r.world) ∧
          p.1.phase = .idle ∧ p.1.count = i ∧
          r.value.2.phase = .idle ∧ r.value.2.count = i + 1 ∧
          (∃ course : Course, r.value.2.journal = Transition.along (i + 1) course.phases) ∧
          ∀ course : Course, r.value.2.journal = Transition.along (i + 1) course.phases ↔
            course.Follows rewriter.isConstrained retrieved (engineCalls r.exchanges) := by
  obtain ⟨hlast, hcount⟩ := rests_polls env n (c := new rewriter store) rfl s
  refine ⟨by rw [length_moments, List.length_replicate], hlast, by rw [hcount]; exact n.zero_add,
    ?_⟩
  intro i p hp
  obtain ⟨hidle, hcount⟩ := rests_of_getElem?_moments env n rfl hp
  rw [show (new rewriter store).count = 0 from rfl, Nat.zero_add] at hcount
  obtain ⟨course, hwalked, htaken⟩ := (exit_tryPoll env p.1 p.2).exists_course hidle
  have hrewriter : p.1.rewriter.isConstrained = rewriter.isConstrained := by
    have hdescription := description_of_mem_moments env (List.mem_of_getElem? hp)
    exact congrArg (fun d => d.constraint.isSome) hdescription
  rw [hcount] at hwalked
  rw [hrewriter] at htaken
  refine ⟨congrFun (erase_tryPoll env p.1).symm p.2, hidle, hcount, phase_tryPoll env hidle p.2,
    hwalked.count, ⟨course, hwalked.journal⟩, fun course' => ?_⟩
  refine Iff.trans ?_ (htaken.follows_iff course').symm
  constructor
  · intro hjournal
    exact Course.eq_of_along_eq (hjournal.symm.trans hwalked.journal)
  · rintro rfl
    exact hwalked.journal

/-- Two polls of a job, both of which go all the way. -/
theorem courses_of_authors :
    let run := moments oneRow [false, false] authors.start none
    run.length = 2 ∧
      ∀ p, run[1]? = some p →
        p.1.phase = .idle ∧ p.1.count = 1 ∧
          (pollAt oneRow p).value.2.journal = Transition.along 2 Course.persisted.phases := by
  obtain ⟨hlength, -, -, hrun⟩ :=
    courses_follow_from_answers oneRow authors.start.rewriter authors.start.store 2 none
  refine ⟨hlength, fun p hp => ?_⟩
  obtain ⟨-, hidle, hcount, -, -, -, hcourse⟩ := hrun 1 p hp
  refine ⟨hidle, hcount, (hcourse .persisted).2 ?_⟩
  obtain rfl := Option.some.inj hp
  have hvalue : Engine.maxValue [⟨[(Query.Rewriter.maxField, .string "6")]⟩] = .ok "6" := by
    decide +kernel
  exact ⟨_, _, _, _, rfl, rfl, hvalue⟩

end Run

end Cycle

end Tidemark
