import Mathlib.Data.List.Induction
import Tidemark.Proofs.Cycle.Finding
import Tidemark.Proofs.Cycle.Protocol
import Tidemark.Proofs.Daemon.Rounds

/-!
# The watermark behind a batch

A batch of a constrained job is handed on after the value that was computed from it has been
recorded.  Over a backend that keeps the document written last (`Keeping`), the next cycle therefore
retrieves this value, in the same run of the daemon or in a later one (`sessions`), and so does
every cycle up to the next batch.  This is an invariant of a round: what a job finds is the value of
the batch handed on last (`FindsLast`, `Linked.findsLast`), and runs keep it one after another
(`follows_sessions`).  Whether the watermark rises is up to the engine: it does if the values that
the engine computes are above those that their cycles started from (`Follows.rises`).
-/

namespace Tidemark.Daemon

open Tidemark.Cycle (Advanced Archived Block Delivers Description Finds)

variable {σ : Type} {env : Surroundings (StateM σ)} {limit : ℕ} {c : Cycle} {s : σ}
  {rs : List (Round σ)} {run : Run} {u : σ} {k : Query.Constraint}

/-! ### The rounds of a constrained job -/

/-- The rounds of a run are rounds of jobs of one description. -/
lemma Linked.exists_round (h : Linked env c s rs) :
    ∀ r ∈ rs, ∃ d t, r = env.round d t ∧ d.description = c.description := by
  induction rs generalizing c s with
  | nil => simp
  | cons x rs ih =>
    obtain ⟨-, hx, hlater⟩ := h
    have hafter : x.after.description = c.description := by
      rw [hx]
      exact Cycle.description_tryPoll env.toSurroundings c x.start
    intro r hr
    rcases List.mem_cons.1 hr with rfl | hr
    · exact ⟨c, r.start, hx, rfl⟩
    · obtain ⟨d, t, hround, hdescription⟩ := ih hlater r hr
      exact ⟨d, t, hround, hdescription.trans hafter⟩

/-- The calls of the engine in a round are a block that starts from what the store retrieves. -/
lemma block_round (env : Surroundings (StateM σ)) (hk : c.rewriter.constraint = some k) (s : σ) :
    Block c.rewriter.base k (env.round c s).previous (engineCalls (env.round c s).poll.exchanges)
      (env.round c s).poll.value.1 :=
  (Cycle.exit_tryPoll env.toSurroundings c s).block hk

/-- A round of a constrained job with rows delivers them. -/
lemma delivers_round (hk : c.rewriter.constraint = some k) (hrows : (env.round c s).rows ≠ []) :
    Delivers c (env.round c s).rows (env.round c s).poll := by
  refine ⟨?_, hrows, Cycle.isConstrained_of_constraint hk⟩
  rw [Round.rows] at hrows ⊢
  cases hresult : (env.round c s).poll.value.1 with
  | error e =>
    rw [hresult] at hrows
    exact absurd rfl hrows
  | ok rows => rfl

/-- A text that is not there is not disturbed. -/
lemma undisturbed_none (env : Tidemark.Surroundings (StateM σ)) :
    Cycle.Undisturbed env fun _ => none :=
  ⟨fun _ _ _ => rfl, fun _ _ => rfl, fun _ => rfl, fun _ _ _ _ _ _ => rfl⟩

/-- A round of a constrained job with rows has recorded their greatest value. -/
lemma advanced_round (hk : c.rewriter.constraint = some k) (hrows : (env.round c s).rows ≠ []) :
    Advanced c (env.round c s).rows (env.round c s).poll := by
  have hdelivers := delivers_round hk hrows
  have hexit : Cycle.Exit env.toSurroundings c s (env.round c s).poll :=
    Cycle.exit_tryPoll env.toSurroundings c s
  rcases hexit.advanced_or_kept (undisturbed_none env.toSurroundings) with
    ⟨rows, hrows', hadvanced⟩ | ⟨hnot, -⟩
  · obtain rfl : (env.round c s).rows = rows :=
      Except.ok.inj (hdelivers.1.symm.trans hrows'.1)
    exact hadvanced
  · exact absurd ⟨_, hdelivers⟩ hnot

/-- Jobs of one description have one constraint. -/
lemma constraint_of_description {d : Cycle} (hd : d.description = c.description)
    (hk : c.rewriter.constraint = some k) : d.rewriter.constraint = some k :=
  (congrArg Description.constraint hd).trans hk

/-- The rounds of a constrained job ask the engine block by block, and those with rows have recorded
their greatest value. -/
lemma Linked.blocks (h : Linked env c s rs) (hk : c.rewriter.constraint = some k) :
    ∀ r ∈ rs, Block c.rewriter.base k r.previous (engineCalls r.poll.exchanges) r.poll.value.1 ∧
      (r.rows ≠ [] → Advanced r.job r.rows r.poll) := by
  intro r hr
  obtain ⟨d, t, rfl, hdescription⟩ := h.exists_round r hr
  have hkd : d.rewriter.constraint = some k := constraint_of_description hdescription hk
  have hbase : d.rewriter.base = c.rewriter.base := congrArg Description.base hdescription
  have hblock := block_round env hkd t
  rw [hbase] at hblock
  exact ⟨hblock, advanced_round hkd⟩

/-! ### The value of the batch handed on last -/

/-- The round that hands on rows last. -/
def lastHanded (rs : List (Round σ)) : Option (Round σ) :=
  (rs.filter fun r => r.rows ≠ []).getLast?

lemma lastHanded_concat_of_nil {r : Round σ} (hrows : r.rows = []) (rs : List (Round σ)) :
    lastHanded (rs ++ [r]) = lastHanded rs := by
  simp [lastHanded, List.filter_append, hrows]

lemma lastHanded_concat_of_ne_nil {r : Round σ} (hrows : r.rows ≠ []) (rs : List (Round σ)) :
    lastHanded (rs ++ [r]) = some r := by
  simp [lastHanded, List.filter_append, hrows]

/-- A job finds the value of the batch that was handed on last. -/
def FindsLast (document : σ → Option String) (before : List (Round σ)) (c : Cycle) (s : σ) : Prop :=
  ∀ r, lastHanded before = some r → Finds document c s r.after.currentValue

/-- Before any batch was handed on nothing is known. -/
lemma findsLast_nil (document : σ → Option String) (c : Cycle) (s : σ) :
    FindsLast document [] c s := by
  intro r hr
  cases hr

/-- Every cycle that retrieves a watermark retrieves the value of the batch that was handed on last
before it. -/
def Follows (before rs : List (Round σ)) : Prop :=
  ∀ earlier q later, rs = earlier ++ q :: later →
    ∀ r, lastHanded (before ++ earlier) = some r → ∀ w, q.previous = .ok w →
      w = r.after.currentValue

lemma follows_nil (before : List (Round σ)) : Follows before [] := by
  intro earlier q later h
  simp at h

lemma Follows.cons {before : List (Round σ)} {r : Round σ}
    (hr : ∀ x, lastHanded before = some x → ∀ w, r.previous = .ok w → w = x.after.currentValue)
    (h : Follows (before ++ [r]) rs) : Follows before (r :: rs) := by
  intro earlier q later hrs x hx w hw
  cases earlier with
  | nil =>
    obtain ⟨rfl, -⟩ := List.cons.inj hrs
    rw [List.append_nil] at hx
    exact hr x hx w hw
  | cons y earlier =>
    obtain ⟨rfl, hlater⟩ := List.cons.inj hrs
    refine h earlier q later hlater x ?_ w hw
    rw [List.append_assoc]
    exact hx

lemma Follows.append {before rs' : List (Round σ)} (h : Follows before rs)
    (h' : Follows (before ++ rs) rs') : Follows before (rs ++ rs') := by
  induction rs generalizing before with
  | nil =>
    rw [List.append_nil] at h'
    exact h'
  | cons r rs ih =>
    refine Follows.cons (fun x hx => h [] r rs rfl x (by rwa [List.append_nil])) (ih ?_ ?_)
    · intro earlier q later hrs x hx
      refine h (r :: earlier) q later (by rw [hrs, List.cons_append]) x ?_
      rwa [List.append_assoc] at hx
    · rwa [List.append_assoc]

/-! ### A backend that keeps the document -/

/-- A backend that keeps the document written last at a location, while nothing but a cycle writes
it. -/
structure Keeping (env : Surroundings (StateM σ)) (location : Option Storage.Location)
    (document : σ → Option String) : Prop
    extends Archived env.toSurroundings location document where
  waited : ∀ s, document (env.wait.run s).2 = document s
  signalled : ∀ s, document (env.signal.run s).2 = document s
  handed : ∀ rows s, document ((env.handOn rows).run s).2 = document s

section Keeping

variable {location : Option Storage.Location} {document : σ → Option String}
  {before : List (Round σ)}

/-- The document stays as it is while the daemon waits. -/
lemma Keeping.document_await (hkeeping : Keeping env location document)
    {answer : Option Signal} {t : σ} (h : (await env).run s = (answer, t)) :
    document t = document s := by
  have hworld : ((await env).run s).2 = t := congrArg Prod.snd h
  rw [← hworld]
  exact (hkeeping.signalled (env.wait.run s).2).trans (hkeeping.waited s)

/-- The document stays as it is while rows are delivered. -/
lemma Keeping.document_finish (hkeeping : Keeping env location document) (c : Cycle) (s : σ) :
    document (env.round c s).finish = document (env.round c s).poll.world := by
  change document (env.delivery (env.round c s).poll.world (env.round c s).rows).2 = _
  cases (env.round c s).rows with
  | nil => rfl
  | cons row rows => exact hkeeping.handed (row :: rows) _

/-- The document stays as it is at the end of a run. -/
lemma Keeping.document_end (hkeeping : Keeping env location document) {ending : Ending}
    (h : Ends env limit s rs u ending) : document u = document (worldAfter s rs) := by
  cases h with
  | stopped haccepted hless hawait => exact hkeeping.document_await hawait
  | refused earlier hrs haccepted hrows hreply hlength hworld =>
    rw [hrs, hworld, worldAfter, List.getLast?_concat]
    rfl
  | paused haccepted hlength hworld => rw [hworld]

/-- What a round retrieves is what its job finds. -/
lemma previous_round (harchived : Archived env.toSurroundings location document)
    (hlocation : c.store.location = location) (hk : c.rewriter.constraint = some k)
    {v : Option String} (hv : Finds document c s v) {w : Option String}
    (hw : (env.round c s).previous = .ok w) : w = v := by
  have hconstrained := Cycle.isConstrained_of_constraint hk
  have hretrieved := Cycle.retrieved_retrieval env.toSurroundings c s
  have hvalue : (c.retrieval env.toSurroundings s).value.1 = .ok w := by
    rw [Cycle.retrieval_of_isConstrained env.toSurroundings hconstrained]
    exact hw
  rcases hretrieved.finds harchived hlocation hconstrained hv with hok | ⟨⟨e, herror⟩, -⟩
  · exact Except.ok.inj (hvalue.symm.trans hok)
  · rw [hvalue] at herror
    cases herror

/-- When rows are handed on, the job already finds the value that was computed from them. -/
lemma finds_round (harchived : Archived env.toSurroundings location document)
    (hlocation : c.store.location = location) (hk : c.rewriter.constraint = some k)
    (hrows : (env.round c s).rows ≠ []) :
    Finds document (env.round c s).after (env.round c s).poll.world
      (env.round c s).after.currentValue :=
  (Cycle.exit_tryPoll env.toSurroundings c s).finds_of_delivers harchived hlocation
    (delivers_round hk hrows)

/-- Whenever a run hands on rows, the job already finds the value that was computed from them. -/
lemma Linked.finds (hlocation : c.store.location = location)
    (hk : c.rewriter.constraint = some k) (h : Linked env c s rs)
    (harchived : Archived env.toSurroundings location document) :
    ∀ r ∈ rs, r.rows ≠ [] → Finds document r.after r.poll.world r.after.currentValue := by
  intro r hr hrows
  obtain ⟨d, t, rfl, hdescription⟩ := h.exists_round r hr
  have hlocation' : d.store.location = location :=
    (congrArg Description.location hdescription).trans hlocation
  exact finds_round harchived hlocation' (constraint_of_description hdescription hk) hrows

/-- After a round the job finds the value of the batch that was handed on last. -/
lemma FindsLast.round (hkeeping : Keeping env location document)
    (hlocation : c.store.location = location) (hk : c.rewriter.constraint = some k)
    (h : FindsLast document before c s) :
    FindsLast document (before ++ [env.round c s]) (env.round c s).after
      (env.round c s).finish := by
  have hfinish := hkeeping.document_finish c s
  intro r hr
  by_cases hrows : (env.round c s).rows = []
  · rw [lastHanded_concat_of_nil hrows] at hr
    have hexit : Cycle.Exit env.toSurroundings c s (env.round c s).poll :=
      Cycle.exit_tryPoll env.toSurroundings c s
    have hnot : ¬ ∃ rows, Delivers c rows (env.round c s).poll := by
      rintro ⟨rows, hok, hne, -⟩
      rw [Round.rows, hok] at hrows
      exact hne hrows
    exact (hexit.finds_of_not_delivers hkeeping.toArchived hnot (h r hr)).elsewhere hfinish
  · rw [lastHanded_concat_of_ne_nil hrows] at hr
    obtain rfl := Option.some.inj hr
    exact (finds_round hkeeping.toArchived hlocation hk hrows).elsewhere hfinish

/-- Rounds one after another follow each other, and after them the job finds the value of the batch
that was handed on last. -/
theorem Linked.findsLast (hkeeping : Keeping env location document)
    (hlocation : c.store.location = location) (hk : c.rewriter.constraint = some k)
    (h : Linked env c s rs) (hbefore : FindsLast document before c s) :
    Follows before rs ∧ FindsLast document (before ++ rs) (jobAfter c rs) (worldAfter s rs) := by
  induction rs generalizing c s before with
  | nil =>
    rw [List.append_nil]
    exact ⟨follows_nil before, hbefore⟩
  | cons r rs ih =>
    obtain ⟨hawait, hr, hlater⟩ := h
    have hstart : FindsLast document before c r.start :=
      fun x hx => (hbefore x hx).elsewhere (hkeeping.document_await hawait)
    have hafter : FindsLast document (before ++ [r]) r.after r.finish := by
      rw [hr]
      exact hstart.round hkeeping hlocation hk
    have hdescription : r.after.description = c.description := by
      rw [hr]
      exact Cycle.description_tryPoll env.toSurroundings c r.start
    have hlocation' : r.after.store.location = location :=
      (congrArg Description.location hdescription).trans hlocation
    have hk' : r.after.rewriter.constraint = some k := constraint_of_description hdescription hk
    obtain ⟨hfollows, hlast⟩ := ih hlocation' hk' hlater hafter
    rw [List.append_assoc] at hlast
    rw [jobAfter_cons, worldAfter_cons]
    refine ⟨Follows.cons ?_ hfollows, hlast⟩
    intro x hx w hw
    rw [hr] at hw
    exact previous_round hkeeping.toArchived hlocation hk (hstart x hx) hw

end Keeping

/-! ### One run after another -/

/-- A run of a daemon over a store that others may have used before: the daemon has an engine, a
handler and a channel of its own, and its job may have been built anew. -/
structure Session (σ : Type) where
  env : Surroundings (StateM σ)
  anew : Bool
  limit : ℕ

/-- The rounds of one run after another. -/
def sessions : List (Session σ) → Cycle → σ → List (Round σ)
  | [], _, _ => []
  | x :: xs, c, s =>
    let d := c.polling x.anew
    let r := (Daemon.run x.env x.limit d).run s
    rounds x.env x.limit d s ++ sessions xs r.1.cycle r.2

/-- The job after rounds has the description of the job before them. -/
lemma Linked.description_jobAfter (h : Linked env c s rs) :
    (jobAfter c rs).description = c.description := by
  cases hlast : rs.getLast? with
  | none => rw [jobAfter, hlast, Option.map_none, Option.getD_none]
  | some r =>
    obtain ⟨d, t, hround, hdescription⟩ := h.exists_round r (List.mem_of_getLast? hlast)
    rw [jobAfter, hlast, Option.map_some, Option.getD_some, hround, ← hdescription]
    exact Cycle.description_tryPoll env.toSurroundings d t

/-- The rounds of one run after another are rounds of jobs of one description. -/
lemma exists_round_sessions {xs : List (Session σ)} :
    ∀ r ∈ sessions xs c s, ∃ x ∈ xs, ∃ d t, r = x.env.round d t ∧
      d.description = c.description := by
  induction xs generalizing c s with
  | nil => simp [sessions]
  | cons x xs ih =>
    obtain ⟨rs, run, u, h⟩ := exists_course x.env x.limit (c.polling x.anew) s
    have hlinked := h.conducted.linked
    have hcycle : run.cycle.description = c.description := by
      rw [h.conducted.cycle, hlinked.description_jobAfter, Cycle.description_polling]
    intro r hr
    simp only [sessions, h.rounds_eq, h.run_eq] at hr
    rcases List.mem_append.1 hr with hr | hr
    · obtain ⟨d, t, hround, hdescription⟩ := hlinked.exists_round r hr
      rw [Cycle.description_polling] at hdescription
      exact ⟨x, List.mem_cons_self, d, t, hround, hdescription⟩
    · obtain ⟨y, hy, d, t, hround, hdescription⟩ := ih r hr
      exact ⟨y, List.mem_cons_of_mem x hy, d, t, hround, hdescription.trans hcycle⟩

section Sessions

variable {location : Option Storage.Location} {document : σ → Option String}
  {before : List (Round σ)}

/-- A job that is built anew over a document finds what the old one would have found. -/
lemma FindsLast.polling {anew : Bool} (hanew : c.store.location = none → anew = false)
    (h : FindsLast document before c s) : FindsLast document before (c.polling anew) s := by
  intro r hr
  cases hl : c.store.location with
  | none =>
    rw [hanew hl]
    exact h r hr
  | some l => exact (h r hr).congr hl (Cycle.description_polling anew c) rfl

/-- One run after another follows what was handed on before. -/
theorem follows_sessions {xs : List (Session σ)}
    (hkeeping : ∀ x ∈ xs, Keeping x.env location document)
    (hlocation : c.store.location = location) (hk : c.rewriter.constraint = some k)
    (hanew : location = none → ∀ x ∈ xs, x.anew = false) (h : FindsLast document before c s) :
    Follows before (sessions xs c s) := by
  induction xs generalizing c s before with
  | nil => exact follows_nil before
  | cons x xs ih =>
    obtain ⟨rs, run, u, hcourse⟩ := exists_course x.env x.limit (c.polling x.anew) s
    have hconducted := hcourse.conducted
    have hx : Keeping x.env location document := hkeeping x List.mem_cons_self
    have hstart : FindsLast document before (c.polling x.anew) s :=
      h.polling fun hnone => hanew (hlocation.symm.trans hnone) x List.mem_cons_self
    have hkeeps : ∀ d : Cycle, d.description = c.description →
        d.store.location = location ∧ d.rewriter.constraint = some k := fun d hd =>
      ⟨(congrArg Description.location hd).trans hlocation, constraint_of_description hd hk⟩
    obtain ⟨hlocation', hk'⟩ := hkeeps _ (Cycle.description_polling x.anew c)
    obtain ⟨hfollows, hlast⟩ := hconducted.linked.findsLast hx hlocation' hk' hstart
    have hcycle : run.cycle.description = c.description := by
      rw [hconducted.cycle, hconducted.linked.description_jobAfter, Cycle.description_polling]
    obtain ⟨hlocation'', hk''⟩ := hkeeps _ hcycle
    have hend : FindsLast document (before ++ rs) run.cycle u := by
      rw [hconducted.cycle]
      exact fun r hr => (hlast r hr).elsewhere (hx.document_end hconducted.ends)
    simp only [sessions, hcourse.rounds_eq, hcourse.run_eq]
    refine hfollows.append (ih (fun y hy => hkeeping y (List.mem_cons_of_mem x hy)) hlocation'' hk''
      (fun hnone y hy => hanew hnone y (List.mem_cons_of_mem x hy)) hend)

end Sessions

/-! ### Watermarks that rise -/

/-- A round of a constrained job with rows has retrieved a watermark and has recorded one. -/
lemma values_round (hk : c.rewriter.constraint = some k) (hrows : (env.round c s).rows ≠ []) :
    (∃ v, (env.round c s).previous = .ok v) ∧
      ∃ w, (env.round c s).after.currentValue = some w := by
  constructor
  · have hblock := block_round env hk s
    rw [(delivers_round hk hrows).1] at hblock
    generalize (env.round c s).rows = rows at hblock
    generalize (env.round c s).previous = previous at hblock ⊢
    generalize engineCalls (env.round c s).poll.exchanges = calls at hblock
    cases hblock with
    | drained v h => exact ⟨v, rfl⟩
    | recorded v h => exact ⟨v, rfl⟩
  · obtain ⟨-, -, -, -, mark, -, -, -, -, -, -, hrecords⟩ := advanced_round hk hrows
    refine ⟨mark.value, ?_⟩
    have hstore : (env.round c s).after.store
        = ⟨c.store.location, ⟨c.store.current.column, some mark⟩⟩ := hrecords.store_eq
    rw [Cycle.currentValue, hstore]
    rfl

/-- The rounds with rows among rounds have retrieved a watermark and have recorded one. -/
def Valued (all : List (Round σ)) : Prop :=
  ∀ x ∈ all, x.rows ≠ [] → (∃ v, x.previous = .ok v) ∧ ∃ w, x.after.currentValue = some w

/-- The values that are computed from batches are above those that their cycles started from. -/
def Ascends (below : String → String → Prop) (all : List (Round σ)) : Prop :=
  ∀ x ∈ all, x.rows ≠ [] → ∀ v w, x.previous = .ok (some v) → x.after.currentValue = some w →
    below v w

/-- No cycle starts at or below the watermark from which the cycle of an earlier batch started. -/
def Rises (below : String → String → Prop) (all : List (Round σ)) : Prop :=
  all.Pairwise fun r q => r.rows ≠ [] → ∀ w, q.previous = .ok w →
    ∃ v', w = some v' ∧ ∀ v, r.previous = .ok (some v) → below v v'

lemma valued_sessions (hk : c.rewriter.constraint = some k) (xs : List (Session σ)) (s : σ) :
    Valued (sessions xs c s) := by
  intro r hr hrows
  obtain ⟨x, -, d, t, rfl, hdescription⟩ := exists_round_sessions r hr
  exact values_round (constraint_of_description hdescription hk) hrows

section Rises

variable {below : String → String → Prop} {all earlier : List (Round σ)} {r : Round σ}

/-- The batch that was handed on last, at or after a given batch, has a value above the watermark
from which the cycle of the given one started. -/
lemma Follows.exists_above (h : Follows [] all) (hvalued : Valued all)
    (htrans : ∀ x y z, below x y → below y z → below x z) (hascends : Ascends below all)
    (hrows : r.rows ≠ []) (between later : List (Round σ))
    (hall : all = earlier ++ r :: (between ++ later)) :
    ∃ x w, lastHanded (earlier ++ r :: between) = some x ∧ x.after.currentValue = some w ∧
      ∀ v, r.previous = .ok (some v) → below v w := by
  induction between using List.reverseRecOn generalizing later with
  | nil =>
    have hmem : r ∈ all := by
      rw [hall]
      exact List.mem_append_right earlier List.mem_cons_self
    obtain ⟨w, hw⟩ := (hvalued r hmem hrows).2
    exact ⟨r, w, lastHanded_concat_of_ne_nil hrows earlier, hw,
      fun v hv => hascends r hmem hrows v w hv hw⟩
  | append_singleton between x ih =>
    have hall' : all = earlier ++ r :: (between ++ x :: later) := by
      rw [hall, List.append_assoc]
      rfl
    have hsplit : earlier ++ r :: (between ++ [x]) = (earlier ++ r :: between) ++ [x] := by
      rw [List.append_assoc, List.cons_append]
    obtain ⟨y, w, hlast, hw, hbelow⟩ := ih (x :: later) hall'
    rw [hsplit]
    by_cases hx : x.rows = []
    · rw [lastHanded_concat_of_nil hx]
      exact ⟨y, w, hlast, hw, hbelow⟩
    · have hmem : x ∈ all := by
        rw [hall']
        simp
      obtain ⟨⟨v', hv'⟩, w', hw'⟩ := hvalued x hmem hx
      -- the cycle of `x` started at the value of the batch before it
      have hprevious : v' = some w := by
        refine (h (earlier ++ r :: between) x later ?_ y hlast v' hv').trans hw
        rw [hall', List.append_assoc, List.cons_append]
      rw [hprevious] at hv'
      exact ⟨x, w', lastHanded_concat_of_ne_nil hx _, hw',
        fun v hv => htrans v w w' (hbelow v hv) (hascends x hmem hx w w' hv' hw')⟩

/-- Rounds that follow each other and ascend start above the watermarks before earlier batches. -/
lemma Follows.rises (h : Follows [] all) (hvalued : Valued all)
    (htrans : ∀ x y z, below x y → below y z → below x z) (hascends : Ascends below all) :
    Rises below all := by
  have hsuffix : ∀ rs earlier, all = earlier ++ rs → Rises below rs := by
    intro rs
    induction rs with
    | nil => exact fun _ _ => List.Pairwise.nil
    | cons r rs ih =>
      intro earlier hall
      refine List.Pairwise.cons ?_ (ih (earlier ++ [r]) (by rw [hall, List.append_assoc]; rfl))
      intro q hq hrows w hw
      obtain ⟨between, later, rfl⟩ := List.append_of_mem hq
      obtain ⟨x, w', hlast, hw', hbelow⟩ :=
        h.exists_above hvalued htrans hascends hrows between (q :: later) hall
      refine ⟨w', (h (earlier ++ r :: between) q later ?_ x hlast w hw).trans hw', hbelow⟩
      rw [hall, List.append_assoc, List.cons_append]
  exact hsuffix all [] rfl

end Rises

/-! ### A run and the runs after it -/

/-- **Every batch is recorded and handed on once.**  Whatever the engine, the backend, the handler,
the clock and the channel for the signal to stop do, a run of the daemon makes one cycle after
another and hands on the results of these cycles that are not empty, each once, in order and as they
are; how many cycles are wanted does not matter once the run has ended by itself.  Rows that are
refused end it at once, with an error that names the cycle.  A signal to stop that is there between
two cycles ends it before the next one, and one that comes during a cycle ends it after the rows of
the cycle were handed on.  When rows of a constrained job are handed on, the value that was computed
from them is recorded; over a backend that keeps the document, the job finds it at that time, every
cycle of this run or of a later one starts from the value of the batch handed on last before it, and
if the values that the engine computes are above those that their cycles started from, no cycle
starts at or below the watermark before an earlier batch. -/
theorem every_batch_is_recorded_and_handed_on_once (env : Surroundings (StateM σ)) (limit : ℕ)
    (c : Cycle) (s : σ) :
    let result := (Daemon.run env limit c).run s
    let noted := (Daemon.run env.noted limit c).run (s, [])
    let rs := rounds env limit c s
    (noted = (result.1, (result.2, rs.flatMap Round.notes ++ result.1.ending.notes)) ∧
      batches noted.2.2 = (rs.map Round.rows).filter (· ≠ []) ∧
      Conducted env limit c s rs result.1 result.2 ∧
      (result.1.ending ≠ .paused →
        ∀ limit', limit ≤ limit' → (Daemon.run env limit' c).run s = result)) ∧
    (∀ earlier r later reason, rs = earlier ++ r :: later → r.reply = .error reason →
      later = [] ∧ ∃ refusal, result.1.ending.result = .error refusal ∧ refusal.chain =
        ["Failed to hand off rows from cycle " ++ toString (c.count + earlier.length + 1),
          reason]) ∧
    (∀ pending, Channel env pending → Heeds env pending limit s rs result.1) ∧
    ∀ k, c.rewriter.constraint = some k →
      (∀ r ∈ rs, Block c.rewriter.base k r.previous (engineCalls r.poll.exchanges)
          r.poll.value.1 ∧
        (r.rows ≠ [] → Advanced r.job r.rows r.poll)) ∧
      ∀ location document, c.store.location = location →
        (Archived env.toSurroundings location document → ∀ r ∈ rs, r.rows ≠ [] →
          Finds document r.after r.poll.world r.after.currentValue) ∧
        ∀ xs : List (Session σ), (∀ x ∈ xs, Keeping x.env location document) →
          (location = none → ∀ x ∈ xs, x.anew = false) →
          Follows [] (sessions xs c s) ∧
            ∀ below : String → String → Prop, (∀ x y z, below x y → below y z → below x z) →
              Ascends below (sessions xs c s) → Rises below (sessions xs c s) := by
  obtain ⟨rs, run, u, h⟩ := exists_course env limit c s
  intro result noted rounds'
  have hresult : result = (run, u) := h.run_eq
  have hrounds : rounds' = rs := h.rounds_eq
  have hnoted : noted = (run, (u, rs.flatMap Round.notes ++ run.ending.notes)) :=
    h.run_noted []
  rw [hresult, hnoted, hrounds]
  have hconducted := h.conducted
  refine ⟨⟨rfl, batches_rounds rs run.ending, hconducted, ?_⟩, ?_, ?_, ?_⟩
  · intro hending limit' hle
    exact (h.extend hending hle).run_eq
  · intro earlier r later reason hrs hreply
    exact hconducted.refusal hrs hreply
  · intro pending hchannel
    exact hchannel.heeds hconducted
  intro k hk
  refine ⟨hconducted.linked.blocks hk, ?_⟩
  intro location document hlocation
  refine ⟨fun harchived => hconducted.linked.finds hlocation hk harchived, ?_⟩
  intro xs hkeeping hanew
  have hfollows : Follows [] (sessions xs c s) :=
    follows_sessions hkeeping hlocation hk hanew (findsLast_nil document c s)
  exact ⟨hfollows, fun below htrans => hfollows.rises (valued_sessions hk xs s) htrans⟩

/-! ### Two runs by a script -/

/-- A page with one row, which has one field. -/
def onePage (name text : String) (token : UInt64) : Engine.QueryResult :=
  ⟨[⟨[(name, .string text)]⟩], ⟨token⟩⟩

/-- The answers of an engine that finds the row 6, and then nothing. -/
def oneBatch : List Engine.QueryResult :=
  [onePage "ID" "6" 1, onePage Query.Rewriter.maxField "6" 1, ⟨[], ⟨2⟩⟩]

/-- The answers of an engine that finds the rows 6 and 7, gives a greatest value of its own for the
second of them, and then finds nothing. -/
def twoBatches (second : String) : List Engine.QueryResult :=
  [onePage "ID" "6" 1, onePage Query.Rewriter.maxField "6" 1, onePage "ID" "7" 2,
    onePage Query.Rewriter.maxField second 2, ⟨[], ⟨3⟩⟩]

/-- The signal that is sent when a number of calls was made. -/
def sentAt (stop : ℕ) (s : ℕ × Option String) : Option Signal :=
  if stop ≤ s.1 then some .sent else none

/-- Surroundings with an engine that answers by a script, a backend with one document, which it
gives back in its own way, and a signal to stop that is sent during a call of the engine.  The world
is the number of calls made and the document. -/
def scripted (reading : ℕ × Option String → Option String) (answers : List Engine.QueryResult)
    (stop : ℕ) : Surroundings (StateM (ℕ × Option String)) where
  engine.execute _ _ := fun s =>
    (match answers[s.1]? with
      | some answer => .ok answer
      | none => .error (.other "no scripted response"), (s.1 + 1, s.2))
  documents.read _ := fun s => (.ok (reading s), s)
  documents.write _ body := fun s => (.ok (), (s.1, some body.compact))
  now := pure ⟨2024, 5, 1, 0, 0, 0, 0⟩
  wait := pure ()
  signal := fun s => (sentAt stop s, s)
  handOn _ := pure (.ok ())

/-- A run that is stopped during a call of the engine, and a run after it, which is stopped during
the next call. -/
def twoRuns (anew : Bool) (reading : ℕ × Option String → Option String)
    (answers : List Engine.QueryResult) (stop : ℕ) : List (Session (ℕ × Option String)) :=
  [⟨scripted reading answers stop, false, 3⟩, ⟨scripted reading answers (stop + 1), anew, 2⟩]

/-- A job on the column `ID` that keeps its watermark itself. -/
def remembering : Description :=
  { Cycle.authors with location := none }

/-- Whether a round has rows, the watermark that it retrieves, and the value after it. -/
def Round.summary (r : Round σ) : Bool × Option (Option String) × Option String :=
  (!r.rows.isEmpty, r.previous.toOption, r.after.currentValue)

lemma Round.summary_rows {r : Round σ} : r.summary.1 = true ↔ r.rows ≠ [] := by
  rw [summary, Bool.not_eq_true', List.isEmpty_eq_false_iff]

lemma Round.summary_previous {r : Round σ} {w : Option String} :
    r.summary.2.1 = some w ↔ r.previous = .ok w := by
  rw [summary]
  cases r.previous <;> simp [Except.toOption]

/-- Whether watermarks rise can be told from the summaries of the rounds. -/
lemma rises_iff {below : String → String → Prop} {all : List (Round σ)} :
    Rises below all ↔ (all.map Round.summary).Pairwise fun p q => p.1 = true → ∀ w, q.2.1 = some w →
      ∃ v', w = some v' ∧ ∀ v, p.2.1 = some (some v) → below v v' := by
  rw [List.pairwise_map, Rises]
  simp only [Round.summary_rows, Round.summary_previous]

lemma ascends_iff {below : String → String → Prop} {all : List (Round σ)} :
    Ascends below all ↔ ∀ p ∈ all.map Round.summary, p.1 = true → ∀ v w,
      p.2.1 = some (some v) → p.2.2 = some w → below v w := by
  rw [List.forall_mem_map, Ascends]
  simp only [Round.summary_rows, Round.summary_previous]
  rfl

lemma channel_scripted (reading : ℕ × Option String → Option String)
    (answers : List Engine.QueryResult) (stop : ℕ) :
    Channel (scripted reading answers stop) (sentAt stop) := by
  have hlater : ∀ n (d : Option String), sentAt stop (n, d) ≠ none →
      ∀ e, sentAt stop (n + 1, e) ≠ none := by
    intro n d h e
    have hle : stop ≤ n := by
      by_contra hnot
      exact h (if_neg hnot)
    rw [sentAt, if_pos (Nat.le_succ_of_le hle)]
    exact Option.some_ne_none _
  exact
    { execute := fun _ _ s h => hlater s.1 s.2 h s.2
      read := fun _ _ h => h
      write := fun _ _ _ h => h
      clock := fun _ h => h
      found := fun _ => rfl
      wait := fun _ h => h
      handOn := fun _ _ h => h }

lemma keeping_scripted (answers : List Engine.QueryResult) (stop : ℕ)
    (location : Option Storage.Location) :
    Keeping (scripted Prod.snd answers stop) location Prod.snd where
  execute _ _ _ := rfl
  read _ _ := rfl
  clock _ := rfl
  refused _ _ _ _ _ h := by cases h
  found _ _ _ _ h := (Except.ok.inj h).symm
  stored _ _ _ _ _ h := by
    left
    cases h
    rfl
  valid _ := by
    change Time.Instant.Valid ⟨2024, 5, 1, 0, 0, 0, 0⟩
    decide
  waited _ := rfl
  signalled _ := rfl
  handed _ _ := rfl

/-- Whether watermarks rise depends on the engine and the backend.  An engine may give the watermark
again as the greatest value of the rows above it, and a backend may lose what was written: then a
later run starts where the cycle of an earlier batch has started. -/
theorem later_run_starts_again :
    ¬ Rises (· < ·) (sessions (twoRuns false Prod.snd (twoBatches "6") 4) remembering.start
        (0, none)) ∧
      ¬ Rises (· < ·) (sessions (twoRuns false (fun _ => none) oneBatch 2) Cycle.authors.start
        (0, none)) := by
  have hrepeated : (sessions (twoRuns false Prod.snd (twoBatches "6") 4) remembering.start
      (0, none)).map Round.summary = [(true, some none, some "6"),
        (true, some (some "6"), some "6"), (false, some (some "6"), some "6")] := by
    decide +kernel
  have hlost : (sessions (twoRuns false (fun _ => none) oneBatch 2) Cycle.authors.start
      (0, none)).map Round.summary
        = [(true, some none, some "6"), (false, some none, some "6")] := by
    decide +kernel
  rw [rises_iff, rises_iff, hrepeated, hlost]
  constructor
  · intro h
    have hlater := (List.pairwise_cons.1 (List.pairwise_cons.1 h).2).1
    obtain ⟨v, hv, hbelow⟩ := hlater _ (List.mem_singleton_self _) rfl _ rfl
    obtain rfl := Option.some.inj hv
    exact String.lt_irrefl _ (hbelow _ rfl)
  · intro h
    obtain ⟨v, hv, -⟩ := (List.pairwise_cons.1 h).1 _ (List.mem_singleton_self _) rfl _ rfl
    cases hv

/-- Two batches are handed on, the run stops at the signal, and a job built anew starts at the value
of the second batch. -/
theorem later_run_of_authors_starts_above :
    let env := scripted Prod.snd (twoBatches "7") 4
    let xs := twoRuns true Prod.snd (twoBatches "7") 4
    let all := sessions xs Cycle.authors.start (0, none)
    Channel env (sentAt 4) ∧
      Cycle.authors.start.rewriter.constraint = some Cycle.idColumn ∧
      (∀ x ∈ xs, Keeping x.env Cycle.authors.location Prod.snd) ∧ Ascends (· < ·) all ∧
      Heeds env (sentAt 4) 3 (0, none) (rounds env 3 Cycle.authors.start (0, none))
        ((Daemon.run env 3 Cycle.authors.start).run (0, none)).1 ∧
      Follows [] all ∧ Rises (· < ·) all := by
  intro env xs all
  have hsummary : all.map Round.summary = [(true, some none, some "6"),
      (true, some (some "6"), some "7"), (false, some (some "7"), some "7")] := by
    decide +kernel
  have hchannel : Channel env (sentAt 4) := channel_scripted Prod.snd (twoBatches "7") 4
  have hk : Cycle.authors.start.rewriter.constraint = some Cycle.idColumn := rfl
  have hkeeping : ∀ x ∈ xs, Keeping x.env Cycle.authors.location Prod.snd := by
    intro x hx
    rcases List.mem_cons.1 hx with rfl | hx
    · exact keeping_scripted _ _ _
    · obtain rfl := List.mem_singleton.1 hx
      exact keeping_scripted _ _ _
  have hascends : Ascends (· < ·) all := by
    rw [ascends_iff, hsummary]
    intro p hp hrows v w hv hw
    simp only [List.mem_cons, List.not_mem_nil, or_false] at hp
    rcases hp with rfl | rfl | rfl
    · cases hv
    · cases hv
      cases hw
      decide
    · cases hrows
  have hanew : Cycle.authors.location = none → ∀ x ∈ xs, x.anew = false := by
    intro hnone
    cases hnone
  obtain ⟨-, -, hheeds, hconstrained⟩ :=
    every_batch_is_recorded_and_handed_on_once env 3 Cycle.authors.start (0, none)
  obtain ⟨-, hstored⟩ := hconstrained Cycle.idColumn hk
  obtain ⟨-, hlater⟩ := hstored Cycle.authors.location Prod.snd rfl
  obtain ⟨hfollows, hrises⟩ := hlater xs hkeeping hanew
  exact ⟨hchannel, hk, hkeeping, hascends, hheeds (sentAt 4) hchannel, hfollows,
    hrises (· < ·) (fun _ _ _ => String.lt_trans) hascends⟩

end Tidemark.Daemon
