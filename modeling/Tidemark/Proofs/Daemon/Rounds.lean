import Tidemark.Proofs.Cycle.Run
import Tidemark.Proofs.Result

/-!
# The rounds of a daemon

A round is a cycle together with the delivery of its rows (`Round`).  `Course` lists the ways in
which a run of the daemon can go, and every run goes in one of them (`exists_course`,
`Course.run_eq`).  From this it is read off what a run does (`Conducted`): its rounds begin one
where the other has ended, and the run ends because there is a signal to stop, because the rows of
the last round were refused, or because as many cycles were run as were wanted.

To say which calls a run makes, and in which order, every call is noted behind the notes so far
(`Surroundings.noted`).  The notes of a run are those of its rounds, one block after the other, and
at the end the signal by which it was stopped (`Course.run_noted`).  A signal that stays once it is
there (`Channel`) ends the run after the round during which it came (`Channel.heeds`).
-/

namespace Tidemark.Daemon

open Tidemark.Cycle (Outcome handedOn tryPoll)

variable {σ : Type}

/-! ### Notes -/

/-- Something that a daemon asks for, with the answer. -/
inductive Note where
  | exchange (call : Exchange)
  | signal (answer : Option Signal)
  | handOn (rows : List Engine.Row) (answer : Except String Unit)

/-- The calls of a cycle are noted behind the notes so far. -/
def logging : Translation (Traced σ) (StateM (σ × List Note)) where
  app x := fun p => ((x p.1).value, ((x p.1).world, p.2 ++ (x p.1).exchanges.map .exchange))
  app_pure a := by
    funext p
    simp only [Traced.pure_apply, List.map_nil, List.append_nil]
    rfl
  app_bind x f := by
    funext p
    rcases hx : x p.1 with ⟨a, t, xs⟩
    simp only [Traced.bind_apply hx, List.map_append, ← List.append_assoc]
    simp only [bind, StateT.bind, hx]

/-- The same surroundings, with every call noted. -/
def Surroundings.noted (env : Surroundings (StateM σ)) :
    Surroundings (StateM (σ × List Note)) where
  toSurroundings := env.toSurroundings.traced.map logging
  wait := fun p => ((), ((env.wait.run p.1).2, p.2))
  signal := fun p =>
    let r := env.signal.run p.1
    (r.1, (r.2, p.2 ++ [.signal r.1]))
  handOn rows := fun p =>
    let r := (env.handOn rows).run p.1
    (r.1, (r.2, p.2 ++ [.handOn rows r.1]))

/-- The batch of rows that is handed on, if one is. -/
def Note.batch? : Note → Option (List Engine.Row)
  | handOn rows _ => some rows
  | _ => none

/-- The batches that are handed on, in order. -/
def batches (notes : List Note) : List (List Engine.Row) :=
  notes.filterMap Note.batch?

@[simp] lemma batches_append (notes notes' : List Note) :
    batches (notes ++ notes') = batches notes ++ batches notes' :=
  List.filterMap_append

/-- The calls of a cycle hand nothing on. -/
@[simp] lemma batches_exchanges (xs : List Exchange) : batches (xs.map .exchange) = [] := by
  induction xs with
  | nil => rfl
  | cons x xs ih => exact ih

/-! ### Rounds -/

/-- A cycle of a daemon, and what became of its rows. -/
structure Round (σ : Type) where
  /-- The job before the cycle. -/
  job : Cycle
  /-- The world before the cycle. -/
  start : σ
  /-- What the store of the job retrieves at the start of the cycle. -/
  previous : Except Watermark.StoreError (Option String)
  poll : Traced.Run σ Outcome
  /-- The answer to the rows; rows that are not there are not refused. -/
  reply : Except String Unit
  /-- The world after the delivery. -/
  finish : σ

namespace Round

/-- The rows that the cycle gives. -/
def rows (r : Round σ) : List Engine.Row :=
  handedOn r.poll.value.1

/-- The job after the cycle. -/
def after (r : Round σ) : Cycle :=
  r.poll.value.2

/-- The number of the cycle. -/
def number (r : Round σ) : ℕ :=
  r.after.count

/-- The report on the cycle. -/
def report (r : Round σ) : Report :=
  ⟨r.rows, ⟨r.rows.length, r.after.currentValue⟩, r.after.journal⟩

/-- What is noted of the delivery of rows. -/
def deliveryNotes (reply : Except String Unit) : List Engine.Row → List Note
  | [] => []
  | rows => [.handOn rows reply]

/-- What is noted of a round: no signal was there, the calls of the cycle, and the delivery. -/
def notes (r : Round σ) : List Note :=
  .signal none :: (r.poll.exchanges.map .exchange ++ deliveryNotes r.reply r.rows)

/-- A round hands on its rows, if there are any, and nothing else. -/
lemma batches_notes (r : Round σ) : batches r.notes = [r.rows].filter (· ≠ []) := by
  change batches (r.poll.exchanges.map .exchange ++ deliveryNotes r.reply r.rows) = _
  rw [batches_append, batches_exchanges, List.nil_append]
  cases r.rows <;> rfl

end Round

/-- The delivery of rows: its answer, and the world after it. -/
def Surroundings.delivery (env : Surroundings (StateM σ)) (s : σ) :
    List Engine.Row → Except String Unit × σ
  | [] => (.ok (), s)
  | rows => (env.handOn rows).run s

/-- The round of a job that begins in a world. -/
def Surroundings.round (env : Surroundings (StateM σ)) (c : Cycle) (s : σ) : Round σ :=
  let poll := tryPoll env.toSurroundings.traced c s
  let delivery := env.delivery poll.world (handedOn poll.value.1)
  { job := c
    start := s
    previous := (c.store.retrieve env.toSurroundings.traced.documents s).value.1
    poll := poll
    reply := delivery.1
    finish := delivery.2 }

/-- The rounds of a run, at most the given number. -/
def rounds (env : Surroundings (StateM σ)) : ℕ → Cycle → σ → List (Round σ)
  | 0, _, _ => []
  | limit + 1, c, s =>
    match (await env).run s with
    | (some _, _) => []
    | (none, t) =>
      let r := env.round c t
      match r.reply with
      | .error _ => [r]
      | .ok () => r :: rounds env limit r.after r.finish

/-- What is noted at the end of a run. -/
def Ending.notes : Ending → List Note
  | .stopped signal => [.signal (some signal)]
  | _ => []

/-- The ways in which a run can go: its rounds, the run itself, and the world after it. -/
inductive Course (env : Surroundings (StateM σ)) :
    ℕ → Cycle → σ → List (Round σ) → Run → σ → Prop
  /-- As many cycles were run as were wanted. -/
  | paused {c : Cycle} {s : σ} : Course env 0 c s [] ⟨[], c, .paused⟩ s
  /-- There is a signal to stop. -/
  | stopped {limit : ℕ} {c : Cycle} {s t : σ} {signal : Signal}
      (hawait : (await env).run s = (some signal, t)) :
      Course env (limit + 1) c s [] ⟨[], c, .stopped signal⟩ t
  /-- A cycle was run, and its rows are refused. -/
  | refused {limit : ℕ} {c : Cycle} {s t : σ} (hawait : (await env).run s = (none, t))
      {r : Round σ} (hr : r = env.round c t) {reason : String} (hreply : r.reply = .error reason) :
      Course env (limit + 1) c s [r] ⟨[r.report], r.after, .refused ⟨r.number, reason⟩⟩ r.finish
  /-- A cycle was run, and the run goes on. -/
  | goesOn {limit : ℕ} {c : Cycle} {s t : σ} (hawait : (await env).run s = (none, t))
      {r : Round σ} (hr : r = env.round c t) (hreply : r.reply = .ok ()) {rs : List (Round σ)}
      {run : Run} {u : σ} (h : Course env limit r.after r.finish rs run u) :
      Course env (limit + 1) c s (r :: rs) { run with reports := r.report :: run.reports } u

/-- There is a way for every run to go. -/
lemma exists_course (env : Surroundings (StateM σ)) (limit : ℕ) (c : Cycle) (s : σ) :
    ∃ rs run u, Course env limit c s rs run u := by
  induction limit generalizing c s with
  | zero => exact ⟨_, _, _, .paused⟩
  | succ limit ih =>
    rcases hawait : (await env).run s with ⟨_ | signal, t⟩
    · cases hreply : (env.round c t).reply with
      | error reason => exact ⟨_, _, _, .refused hawait rfl hreply⟩
      | ok u =>
        obtain ⟨rs, run, v, h⟩ := ih (env.round c t).after (env.round c t).finish
        exact ⟨_, _, _, .goesOn hawait rfl hreply h⟩
    · exact ⟨_, _, _, .stopped hawait⟩

/-- The rounds of a run are those of the way that it goes. -/
lemma Course.rounds_eq {env : Surroundings (StateM σ)} {limit : ℕ} {c : Cycle} {s : σ}
    {rs : List (Round σ)} {run : Run} {u : σ} (h : Course env limit c s rs run u) :
    rounds env limit c s = rs := by
  induction h with
  | paused => rfl
  | stopped hawait => simp only [rounds, hawait]
  | refused hawait hr hreply =>
    subst hr
    simp only [rounds, hawait, hreply]
  | goesOn hawait hr hreply h ih =>
    subst hr
    simp only [rounds, hawait, hreply, ih]

/-! ### What a run does -/

/-- A traced cycle with its report. -/
lemma runOnce_traced (env : Tidemark.Surroundings (StateM σ)) (c : Cycle) (s : σ) :
    runOnce env.traced c s =
      let p := tryPoll env.traced c s
      let rows := handedOn p.value.1
      ⟨(⟨rows, ⟨rows.length, p.value.2.currentValue⟩, p.value.2.journal⟩, p.value.2), p.world,
        p.exchanges⟩ := by
  rcases hpoll : tryPoll env.traced c s with ⟨⟨result, d⟩, t, xs⟩
  have hrows : c.poll env.traced s = ⟨(handedOn result, d), t, xs⟩ := by
    unfold Cycle.poll
    rw [Traced.bind_apply hpoll]
    cases result <;> simp [handedOn]
  unfold runOnce
  rw [Traced.bind_apply hrows]
  simp

/-- A cycle of a daemon is the cycle of its round. -/
lemma run_runOnce (env : Surroundings (StateM σ)) (c : Cycle) (s : σ) :
    (runOnce env.toSurroundings c).run s
      = (((env.round c s).report, (env.round c s).after), (env.round c s).poll.world) := by
  have h := map_runOnce Traced.erasure env.toSurroundings.traced c
  rw [Tidemark.Surroundings.map_traced] at h
  rw [h]
  change ((runOnce env.toSurroundings.traced c s).value,
    (runOnce env.toSurroundings.traced c s).world) = _
  rw [runOnce_traced]
  rfl

/-- A cycle of a daemon whose calls are noted. -/
lemma run_runOnce_noted (env : Surroundings (StateM σ)) (c : Cycle) (s : σ) (notes : List Note) :
    (runOnce env.noted.toSurroundings c).run (s, notes)
      = (((env.round c s).report, (env.round c s).after), ((env.round c s).poll.world,
          notes ++ (env.round c s).poll.exchanges.map .exchange)) := by
  have h := map_runOnce logging env.toSurroundings.traced c
  change (runOnce (env.toSurroundings.traced.map logging) c).run (s, notes) = _
  rw [h]
  change ((runOnce env.toSurroundings.traced c s).value,
    ((runOnce env.toSurroundings.traced c s).world,
      notes ++ (runOnce env.toSurroundings.traced c s).exchanges.map .exchange)) = _
  rw [runOnce_traced]
  rfl

/-- The rows of a cycle are delivered, unless there are none. -/
lemma run_deliver (env : Surroundings (StateM σ)) (cycle : ℕ) (rows : List Engine.Row) (s : σ) :
    (deliver env cycle rows).run s
      = ((env.delivery s rows).1.mapError (Refusal.mk cycle), (env.delivery s rows).2) := by
  cases rows <;> rfl

/-- The delivery of rows is noted. -/
lemma delivery_noted (env : Surroundings (StateM σ)) (s : σ) (notes : List Note)
    (rows : List Engine.Row) :
    env.noted.delivery (s, notes) rows
      = ((env.delivery s rows).1, ((env.delivery s rows).2,
          notes ++ Round.deliveryNotes (env.delivery s rows).1 rows)) := by
  cases rows with
  | nil =>
    rw [Round.deliveryNotes, List.append_nil]
    rfl
  | cons row rows => rfl

/-- A signal, or none, is noted. -/
lemma await_noted (env : Surroundings (StateM σ)) (s : σ) (notes : List Note) :
    (await env.noted).run (s, notes)
      = (((await env).run s).1,
          (((await env).run s).2, notes ++ [.signal ((await env).run s).1])) :=
  rfl

section Steps

variable {τ : Type}

variable {env : Surroundings (StateM τ)} {limit : ℕ} {c d : Cycle} {s t u v : τ} {report : Report}

/-- A run stops where there is a signal. -/
lemma run_of_signal {signal : Signal} (hawait : (await env).run s = (some signal, t)) :
    (run env (limit + 1) c).run s = (⟨[], c, .stopped signal⟩, t) := by
  rw [run]
  exact run_bind_of hawait _

/-- A run ends where the rows of a cycle are refused. -/
lemma run_of_refusal (hawait : (await env).run s = (none, t))
    (hcycle : (runOnce env.toSurroundings c).run t = ((report, d), u)) {reason : String}
    (hdelivery : env.delivery u report.rows = (.error reason, v)) :
    (run env (limit + 1) c).run s = (⟨[report], d, .refused ⟨d.count, reason⟩⟩, v) := by
  have hdeliver := run_deliver env d.count report.rows u
  rw [hdelivery] at hdeliver
  rw [run]
  exact (run_bind_of hawait _).trans ((run_bind_of hcycle _).trans (run_bind_of hdeliver _))

/-- A run goes on where the rows of a cycle are not refused. -/
lemma run_of_delivery (hawait : (await env).run s = (none, t))
    (hcycle : (runOnce env.toSurroundings c).run t = ((report, d), u))
    (hdelivery : env.delivery u report.rows = (.ok (), v)) :
    (run env (limit + 1) c).run s =
      let rest := (run env limit d).run v
      ({ rest.1 with reports := report :: rest.1.reports }, rest.2) := by
  have hdeliver := run_deliver env d.count report.rows u
  rw [hdelivery] at hdeliver
  rw [run]
  exact (run_bind_of hawait _).trans ((run_bind_of hcycle _).trans (run_bind_of hdeliver _))

end Steps

/-- The rows of a round are delivered once the cycle is over. -/
lemma delivery_round (env : Surroundings (StateM σ)) (c : Cycle) (s : σ)
    {reply : Except String Unit} (hreply : (env.round c s).reply = reply) :
    env.delivery (env.round c s).poll.world (env.round c s).report.rows
      = (reply, (env.round c s).finish) := by
  rw [← hreply]
  rfl

/-- The delivery of the rows of a round is noted behind the calls of its cycle. -/
lemma delivery_round_noted (env : Surroundings (StateM σ)) (c : Cycle) (s : σ)
    (notes : List Note) {reply : Except String Unit} (hreply : (env.round c s).reply = reply) :
    env.noted.delivery ((env.round c s).poll.world,
        notes ++ [.signal none] ++ (env.round c s).poll.exchanges.map .exchange)
        (env.round c s).report.rows
      = (reply, ((env.round c s).finish, notes ++ (env.round c s).notes)) := by
  rw [delivery_noted, delivery_round env c s hreply, Round.notes, hreply]
  simp only [List.append_assoc, List.cons_append, List.nil_append]
  rfl

variable {env : Surroundings (StateM σ)} {limit : ℕ} {c : Cycle} {s : σ} {rs : List (Round σ)}
  {run : Run} {u : σ}

/-- A run gives what the way that it goes says. -/
lemma Course.run_eq (h : Course env limit c s rs run u) :
    (Daemon.run env limit c).run s = (run, u) := by
  induction h with
  | paused => rfl
  | stopped hawait => exact run_of_signal hawait
  | @refused limit c s t hawait r hr reason hreply =>
    subst hr
    exact run_of_refusal hawait (run_runOnce env c t) (delivery_round env c t hreply)
  | @goesOn limit c s t hawait r hr hreply rs run u h ih =>
    subst hr
    rw [run_of_delivery hawait (run_runOnce env c t) (delivery_round env c t hreply), ih]

/-- A run whose calls are noted is the run, and its notes are those of its rounds and its end. -/
lemma Course.run_noted (h : Course env limit c s rs run u) (notes : List Note) :
    (Daemon.run env.noted limit c).run (s, notes)
      = (run, (u, notes ++ rs.flatMap Round.notes ++ run.ending.notes)) := by
  induction h generalizing notes with
  | paused =>
    simp only [List.flatMap_nil, List.append_nil, Ending.notes]
    rfl
  | @stopped limit c s t signal hawait =>
    have hnoted := await_noted env s notes
    rw [hawait] at hnoted
    rw [run_of_signal hnoted, List.flatMap_nil, List.append_nil, Ending.notes]
  | @refused limit c s t hawait r hr reason hreply =>
    subst hr
    have hnoted := await_noted env s notes
    rw [hawait] at hnoted
    rw [run_of_refusal hnoted (run_runOnce_noted env c t _)
      (delivery_round_noted env c t notes hreply)]
    simp only [List.flatMap_cons, List.flatMap_nil, List.append_nil, Ending.notes]
    rfl
  | @goesOn limit c s t hawait r hr hreply rs run u h ih =>
    subst hr
    have hnoted := await_noted env s notes
    rw [hawait] at hnoted
    rw [run_of_delivery hnoted (run_runOnce_noted env c t _)
      (delivery_round_noted env c t notes hreply), ih]
    simp only [List.flatMap_cons, List.append_assoc]

/-- A run that was not paused is not changed by a greater number of cycles. -/
lemma Course.extend (h : Course env limit c s rs run u) (hending : run.ending ≠ .paused)
    {limit' : ℕ} (hle : limit ≤ limit') : Course env limit' c s rs run u := by
  induction h generalizing limit' with
  | paused => exact absurd rfl hending
  | stopped hawait =>
    cases limit' with
    | zero => cases hle
    | succ limit' => exact .stopped hawait
  | refused hawait hr hreply =>
    cases limit' with
    | zero => cases hle
    | succ limit' => exact .refused hawait hr hreply
  | goesOn hawait hr hreply h ih =>
    cases limit' with
    | zero => cases hle
    | succ limit' => exact .goesOn hawait hr hreply (ih hending (Nat.le_of_succ_le_succ hle))

/-! ### One round after another -/

/-- Rounds one after another: each begins where the one before it has ended, once no signal to stop
was found. -/
def Linked (env : Surroundings (StateM σ)) : Cycle → σ → List (Round σ) → Prop
  | _, _, [] => True
  | c, s, r :: rs => (await env).run s = (none, r.start) ∧ r = env.round c r.start ∧
      Linked env r.after r.finish rs

/-- The job after rounds. -/
def jobAfter (c : Cycle) (rs : List (Round σ)) : Cycle :=
  (rs.getLast?.map Round.after).getD c

/-- The world after rounds. -/
def worldAfter (s : σ) (rs : List (Round σ)) : σ :=
  (rs.getLast?.map Round.finish).getD s

lemma jobAfter_cons (c : Cycle) (r : Round σ) (rs : List (Round σ)) :
    jobAfter c (r :: rs) = jobAfter r.after rs := by
  rw [jobAfter, jobAfter, List.getLast?_cons]
  cases rs.getLast? <;> rfl

lemma worldAfter_cons (s : σ) (r : Round σ) (rs : List (Round σ)) :
    worldAfter s (r :: rs) = worldAfter r.finish rs := by
  rw [worldAfter, worldAfter, List.getLast?_cons]
  cases rs.getLast? <;> rfl

/-- The ways in which rounds come to an end. -/
inductive Ends (env : Surroundings (StateM σ)) (limit : ℕ) (s : σ) (rs : List (Round σ)) (u : σ) :
    Ending → Prop
  /-- Nothing is refused, and after the last round there is a signal to stop. -/
  | stopped {signal : Signal} (haccepted : ∀ r ∈ rs, r.reply = .ok ()) (hless : rs.length < limit)
      (hawait : (await env).run (worldAfter s rs) = (some signal, u)) :
      Ends env limit s rs u (.stopped signal)
  /-- The rows of the last round, and only these, are refused. -/
  | refused (earlier : List (Round σ)) {r : Round σ} (hrs : rs = earlier ++ [r])
      (haccepted : ∀ x ∈ earlier, x.reply = .ok ()) (hrows : r.rows ≠ []) {reason : String}
      (hreply : r.reply = .error reason) (hlength : rs.length ≤ limit) (hworld : u = r.finish) :
      Ends env limit s rs u (.refused ⟨r.number, reason⟩)
  /-- Nothing is refused, and there are as many rounds as were wanted. -/
  | paused (haccepted : ∀ r ∈ rs, r.reply = .ok ()) (hlength : rs.length = limit)
      (hworld : u = worldAfter s rs) : Ends env limit s rs u .paused

/-- What a run does, told from its rounds. -/
structure Conducted (env : Surroundings (StateM σ)) (limit : ℕ) (c : Cycle) (s : σ)
    (rs : List (Round σ)) (run : Run) (u : σ) : Prop where
  linked : Linked env c s rs
  reports : run.reports = rs.map Round.report
  cycle : run.cycle = jobAfter c rs
  numbers : rs.map Round.number = List.range' (c.count + 1) rs.length
  ends : Ends env limit s rs u run.ending

/-- Rows that are not there are not refused. -/
lemma rows_ne_nil_of_reply {reason : String} (hreply : (env.round c s).reply = .error reason) :
    (env.round c s).rows ≠ [] := by
  intro hrows
  have hdelivery : (env.round c s).reply
      = (env.delivery (env.round c s).poll.world (env.round c s).rows).1 := rfl
  rw [hrows, hreply] at hdelivery
  cases hdelivery

/-- The cycle of a round has the number after that of the cycle before it. -/
lemma number_round (env : Surroundings (StateM σ)) (c : Cycle) (s : σ) :
    (env.round c s).number = c.count + 1 :=
  Cycle.count_tryPoll env.toSurroundings c s

/-- A round before rounds that end in some way. -/
lemma Ends.cons {r : Round σ} (hreply : r.reply = .ok ()) {ending : Ending}
    (h : Ends env limit r.finish rs u ending) : Ends env (limit + 1) s (r :: rs) u ending := by
  cases h with
  | stopped haccepted hless hawait =>
    refine .stopped (List.forall_mem_cons.2 ⟨hreply, haccepted⟩) (Nat.succ_lt_succ hless) ?_
    rw [worldAfter_cons]
    exact hawait
  | @refused earlier x hrs haccepted hrows reason hx hlength hworld =>
    refine .refused (r :: earlier) ?_ (List.forall_mem_cons.2 ⟨hreply, haccepted⟩) hrows hx
      (Nat.succ_le_succ hlength) hworld
    rw [hrs, List.cons_append]
  | paused haccepted hlength hworld =>
    refine .paused (List.forall_mem_cons.2 ⟨hreply, haccepted⟩) (congrArg (· + 1) hlength) ?_
    rw [worldAfter_cons]
    exact hworld

/-- However a run goes, it makes one round after another. -/
lemma Course.conducted (h : Course env limit c s rs run u) :
    Conducted env limit c s rs run u := by
  induction h with
  | paused => exact ⟨trivial, rfl, rfl, rfl, .paused (by simp) rfl rfl⟩
  | stopped hawait => exact ⟨trivial, rfl, rfl, rfl, .stopped (by simp) (Nat.succ_pos _) hawait⟩
  | @refused limit c s t hawait r hr reason hreply =>
    subst hr
    refine ⟨⟨hawait, rfl, trivial⟩, rfl, rfl, ?_, ?_⟩
    · simp only [List.map_cons, List.map_nil, number_round, List.length_singleton]
      rfl
    · exact .refused [] rfl (by simp) (rows_ne_nil_of_reply hreply) hreply
        (Nat.succ_le_succ (Nat.zero_le limit)) rfl
  | @goesOn limit c s t hawait r hr hreply rs run u h ih =>
    subst hr
    refine ⟨⟨hawait, rfl, ih.linked⟩, ?_, ?_, ?_, ih.ends.cons hreply⟩
    · rw [ih.reports, List.map_cons]
    · rw [jobAfter_cons]
      exact ih.cycle
    · have hnumber : (env.round c t).after.count = c.count + 1 := number_round env c t
      rw [List.map_cons, ih.numbers, hnumber, number_round, List.length_cons, List.range'_succ]

/-- The rounds of a run are numbered without a gap. -/
lemma Conducted.number_eq (h : Conducted env limit c s rs run u) {earlier later : List (Round σ)}
    {r : Round σ} (hrs : rs = earlier ++ r :: later) : r.number = c.count + earlier.length + 1 := by
  have hnumbers := h.numbers
  subst hrs
  have hleft : ((earlier ++ r :: later).map Round.number)[earlier.length]? = some r.number := by
    rw [List.map_append, List.getElem?_append_right (by simp)]
    simp
  have hright : (List.range' (c.count + 1) (earlier ++ r :: later).length)[earlier.length]?
      = some (c.count + 1 + earlier.length) := by
    rw [List.getElem?_range' (by simp)]
    simp
  rw [hnumbers, hright] at hleft
  have hnumber := Option.some.inj hleft
  omega

/-- Rows that are refused end the run at once, with an error that names the cycle. -/
theorem Conducted.refusal (h : Conducted env limit c s rs run u)
    {earlier later : List (Round σ)} {r : Round σ} (hrs : rs = earlier ++ r :: later)
    {reason : String} (hreply : r.reply = .error reason) :
    later = [] ∧ ∃ refusal, run.ending.result = .error refusal ∧ refusal.chain =
      ["Failed to hand off rows from cycle " ++ toString (c.count + earlier.length + 1),
        reason] := by
  have hmem : r ∈ rs := by
    rw [hrs]
    exact List.mem_append_right earlier List.mem_cons_self
  have hnot : ∀ accepted : List (Round σ), (∀ x ∈ accepted, x.reply = .ok ()) → r ∉ accepted := by
    intro accepted haccepted hr
    rw [haccepted r hr] at hreply
    cases hreply
  have hnumber := h.number_eq hrs
  have hends := h.ends
  generalize run.ending = ending at hends ⊢
  cases hends with
  | stopped haccepted hless hawait => exact absurd hmem (hnot rs haccepted)
  | paused haccepted hlength hworld => exact absurd hmem (hnot rs haccepted)
  | @refused accepted x hrs' haccepted hrows reason' hreply' hlength hworld =>
    have hsplit : earlier ++ r :: later = accepted ++ [x] := hrs.symm.trans hrs'
    by_cases hlater : later = []
    · subst hlater
      obtain ⟨-, hlast⟩ := List.append_inj' hsplit rfl
      obtain ⟨rfl, -⟩ := List.cons.inj hlast
      obtain rfl : reason = reason' := Except.error.inj (hreply.symm.trans hreply')
      refine ⟨rfl, _, rfl, ?_⟩
      rw [Refusal.chain, hnumber]
    · -- only the last round is refused
      have haccepted' : accepted = earlier ++ r :: later.dropLast := by
        rw [← @List.dropLast_concat _ accepted x, ← hsplit,
          List.dropLast_append_of_ne_nil (List.cons_ne_nil r later),
          List.dropLast_cons_of_ne_nil hlater]
      refine absurd ?_ (hnot accepted haccepted)
      rw [haccepted']
      exact List.mem_append_right earlier List.mem_cons_self

/-- The batches that a run hands on are the results of its cycles that are not empty. -/
lemma batches_rounds (rs : List (Round σ)) (ending : Ending) :
    batches (rs.flatMap Round.notes ++ ending.notes)
      = (rs.map Round.rows).filter (· ≠ []) := by
  have hending : batches ending.notes = [] := by
    cases ending <;> rfl
  rw [batches_append, hending, List.append_nil]
  induction rs with
  | nil => rfl
  | cons r rs ih =>
    rw [List.flatMap_cons, batches_append, ih, Round.batches_notes, List.map_cons,
      ← List.filter_append]
    rfl

/-! ### Signals -/

/-- A channel for the signal to stop: a signal that is there is found, and it stays while the daemon
waits, while it hands rows on, and during every call of a cycle. -/
structure Channel (env : Surroundings (StateM σ)) (pending : σ → Option Signal) : Prop
    extends Cycle.Lasting env.toSurroundings (fun s => pending s ≠ none) where
  found : ∀ s, (env.signal.run s).1 = pending s
  wait : ∀ s, pending s ≠ none → pending (env.wait.run s).2 ≠ none
  handOn : ∀ rows s, pending s ≠ none → pending ((env.handOn rows).run s).2 ≠ none

/-- A run heeds the signal to stop.  One that is there before the run, or comes while the daemon
waits for its first cycle, ends the run, and there is no cycle.  One that comes during a round, or
while the daemon waits for the next one, ends the run after the round, unless the rows were refused
or no further cycle was wanted. -/
structure Heeds (env : Surroundings (StateM σ)) (pending : σ → Option Signal) (limit : ℕ) (s : σ)
    (rs : List (Round σ)) (run : Run) : Prop where
  before : pending s ≠ none ∨ pending (env.wait.run s).2 ≠ none → 0 < limit →
    rs = [] ∧ (∃ signal, run.ending = .stopped signal) ∧ run.ending.result = .ok ()
  during : ∀ earlier r later, rs = earlier ++ r :: later →
    pending r.start ≠ none ∨ pending r.poll.world ≠ none ∨ pending r.finish ≠ none ∨
        pending (env.wait.run r.finish).2 ≠ none →
      later = [] ∧ (r.reply = .ok () → rs.length < limit →
        (∃ signal, run.ending = .stopped signal) ∧ run.ending.result = .ok ())

/-- Fewer rounds than were wanted, the last of them not refused, end at a signal. -/
lemma Ends.stopped_of_less {ending : Ending} (h : Ends env limit s rs u ending)
    (haccepted : ∀ r, rs.getLast? = some r → r.reply = .ok ()) (hless : rs.length < limit) :
    (∃ signal, ending = .stopped signal) ∧ ending.result = .ok () := by
  cases h with
  | stopped haccepted hless hawait => exact ⟨⟨_, rfl⟩, rfl⟩
  | @refused earlier r hrs hearlier hrows reason hreply hlength hworld =>
    have hok : r.reply = .ok () := haccepted r (by rw [hrs, List.getLast?_concat])
    rw [hreply] at hok
    cases hok
  | paused haccepted hlength hworld => exact absurd hlength (Nat.ne_of_lt hless)

/-- Rounds after other rounds begin where the last of these has ended. -/
lemma Linked.later {earlier : List (Round σ)} {r : Round σ} {later : List (Round σ)}
    (h : Linked env c s (earlier ++ r :: later)) :
    (∃ d, r = env.round d r.start) ∧ Linked env r.after r.finish later := by
  induction earlier generalizing c s with
  | nil => exact ⟨⟨c, h.2.1⟩, h.2.2⟩
  | cons x earlier ih => exact ih h.2.2

namespace Channel

variable {pending : σ → Option Signal}

/-- A signal that is there at the end of the wait is found. -/
lemma exists_signal (hchannel : Channel env pending) (hs : pending (env.wait.run s).2 ≠ none) :
    ∃ signal t, (await env).run s = (some signal, t) := by
  obtain ⟨signal, hsignal⟩ := Option.ne_none_iff_exists'.1 hs
  refine ⟨signal, (env.signal.run (env.wait.run s).2).2, ?_⟩
  change ((env.signal.run (env.wait.run s).2).1, _) = _
  rw [hchannel.found, hsignal]
  rfl

/-- No round begins where there is a signal at the end of the wait. -/
lemma eq_nil_of_linked (hchannel : Channel env pending) (hs : pending (env.wait.run s).2 ≠ none)
    (h : Linked env c s rs) : rs = [] := by
  cases rs with
  | nil => rfl
  | cons r rs =>
    obtain ⟨signal, t, hawait⟩ := hchannel.exists_signal hs
    rw [h.1] at hawait
    cases hawait

/-- A signal that comes during a round, or in the wait after it, is there at the end of the wait. -/
lemma pending_waited (hchannel : Channel env pending) {r : Round σ} (hr : r = env.round c s)
    (hpending : pending r.start ≠ none ∨ pending r.poll.world ≠ none ∨ pending r.finish ≠ none ∨
      pending (env.wait.run r.finish).2 ≠ none) :
    pending (env.wait.run r.finish).2 ≠ none := by
  subst hr
  have hdelivery : pending (env.round c s).poll.world ≠ none →
      pending (env.wait.run (env.round c s).finish).2 ≠ none := by
    intro hpoll
    refine hchannel.wait _ ?_
    change pending (env.delivery (env.round c s).poll.world (env.round c s).rows).2 ≠ none
    cases (env.round c s).rows with
    | nil => exact hpoll
    | cons row rows => exact hchannel.handOn (row :: rows) _ hpoll
  rcases hpending with hstart | hpoll | hfinish | hwaited
  · exact hdelivery ((Cycle.exit_tryPoll env.toSurroundings c s).lasts hchannel.toLasting hstart)
  · exact hdelivery hpoll
  · exact hchannel.wait _ hfinish
  · exact hwaited

/-- A run heeds the signals of a channel. -/
theorem heeds (hchannel : Channel env pending) (h : Conducted env limit c s rs run u) :
    Heeds env pending limit s rs run where
  before hs hlimit := by
    have hwaited : pending (env.wait.run s).2 ≠ none := hs.elim (hchannel.wait s) id
    have hnil : rs = [] := hchannel.eq_nil_of_linked hwaited h.linked
    subst hnil
    exact ⟨rfl, h.ends.stopped_of_less (fun x hx => by cases hx) hlimit⟩
  during earlier r later hrs hpending := by
    subst hrs
    obtain ⟨⟨d, hr⟩, hlater⟩ := h.linked.later
    have hnil : later = [] := hchannel.eq_nil_of_linked (hchannel.pending_waited hr hpending) hlater
    subst hnil
    refine ⟨rfl, fun hreply hless => h.ends.stopped_of_less ?_ hless⟩
    intro x hx
    rw [List.getLast?_concat] at hx
    obtain rfl := Option.some.inj hx
    exact hreply

end Channel

end Tidemark.Daemon
