import Tidemark.Proofs.Cycle.Standing
import Tidemark.Proofs.Engine.ByText

/-!
# Every row once

A job pages through a table while writers add rows to it, calls fail, and the job is started anew
(`Served` says what the engine, the backend and the clock do meanwhile).  The rows that its polls
have handed on are then the lowest rows of the table, each of them once and in ascending order, and
its watermark is the value of the last of them.  This is an invariant of a poll (`Paged`,
`Exit.pollPaged`): a poll that fails changes nothing, because some call of it has failed, and a poll
that succeeds hands on the next page of the version that it has read.  A run keeps it by induction
on the polls (`Paged.polls`), and the result on whole runs (`pages_exactly_once`) is read off it.
-/

namespace Tidemark

open Engine (Row Table Collation NextPage Progress UpTo lastText pageSteps)

namespace Cycle

variable {σ : Type} {o : Collation} {column : String}

/-! ### The surroundings of a paging job -/

/-- What a job meets with while it pages through a table: an engine that reads the steps of a plan
and evaluates them over the newest version of the table or the version that it is asked for; writers
that add rows above all others during any call; a backend that keeps the document that is written;
and a clock that shows dates that exist.  Any call to the engine or the backend may fail, and then
the document stays as it is. -/
structure Served (env : Surroundings (StateM σ)) (d : Description) (table : σ → Table o column)
    (document : σ → Option String) : Prop extends Undisturbed env document where
  answers : ∀ plan point s, ∃ t : Table o column, (table s).Grows t ∧
    t.Grows (table ((env.engine.execute plan point).run s).2) ∧
    ∀ steps, d.base.Reads plan steps → ∀ answer,
      ((env.engine.execute plan point).run s).1 = .ok answer → t.Answers steps point answer
  growsRead : ∀ uri s, (table s).Grows (table ((env.documents.read uri).run s).2)
  growsWrite : ∀ location body s,
    (table s).Grows (table ((env.documents.write location body).run s).2)
  growsClock : ∀ s, (table s).Grows (table (env.now.run s).2)
  found : ∀ l, d.location = some l → ∀ s text,
    ((env.documents.read l.uri).run s).1 = .ok text → text = document s
  stored : ∀ l, d.location = some l → ∀ body s t,
    (env.documents.write l body).run s = (.ok (), t) →
      document t = some body.compact ∨ document t = some body.pretty
  valid : ∀ s, (env.now.run s).1.Valid

/-- Such a backend keeps the document of the job. -/
lemma Served.archived {env : Surroundings (StateM σ)} {d : Description} {table : σ → Table o column}
    {document : σ → Option String} (h : Served env d table document) :
    Archived env d.location document :=
  ⟨h.toUndisturbed, h.found, h.stored, h.valid⟩

/-! ### One poll -/

/-- A job has paged through a table: what it has handed on are the lowest rows, and it finds the
value of the last of them. -/
structure Paged (d : Description) (table : σ → Table o column) (document : σ → Option String)
    (delivered : List Row) (c : Cycle) (s : σ) : Prop where
  description : c.description = d
  progress : ∃ rest, Progress o column (table s).rows delivered rest
  finds : Finds document c s (lastText column delivered)

section Poll

variable {env : Surroundings (StateM σ)} {d : Description} {table : σ → Table o column}
  {document : σ → Option String} {delivered : List Row} {c : Cycle} {s : σ}

/-- The table only grows, whatever is called. -/
lemma Served.lasting (hserved : Served env d table document) (t : Table o column) :
    Lasting env fun s => t.Grows (table s) where
  execute plan point s h := by
    obtain ⟨u, hbefore, hafter, -⟩ := hserved.answers plan point s
    exact (h.trans hbefore).trans hafter
  read uri s h := h.trans (hserved.growsRead uri s)
  write location body s h := h.trans (hserved.growsWrite location body s)
  clock s h := h.trans (hserved.growsClock s)

variable {k : Query.Constraint}

/-- A job that has paged through a table finds the value of the last row handed on, which can stand
in a plan. -/
lemma Paged.standing (hpaged : Paged d table document delivered c s) :
    Standing d document (lastText column delivered) c s := by
  obtain ⟨rest, hprogress⟩ := hpaged.progress
  refine ⟨hpaged.description, hpaged.finds, ?_⟩
  intro w hw
  obtain ⟨l, hl, htext⟩ := Option.bind_eq_some_iff.1 hw
  obtain ⟨v, hv, hclean⟩ := (table s).plain.text l (hprogress.mem_of_mem (List.mem_of_getLast? hl))
  obtain rfl : v = w := Option.some.inj (hv.symm.trans htext)
  exact hclean

/-- Every row call asks the engine while the table has some newest version. -/
lemma RowCall.exists_answers (hserved : Served env d table document) (q : RowCall env c s) :
    ∃ t : Table o column, (table s).Grows t ∧ t.Grows (table q.world) ∧
      ∀ steps, d.base.Reads (q.job.rowPlan q.previous) steps →
        ∀ answer, q.answer = .ok answer → t.Answers steps none answer := by
  obtain ⟨t, hbefore, hafter, hanswers⟩ :=
    hserved.answers (q.job.rowPlan q.previous) none q.start
  rw [q.executed] at hafter hanswers
  have hstart : (table s).Grows (table q.start) :=
    q.retrieved_cases.lasts (hserved.lasting (table s)) (.refl _)
  exact ⟨t, hstart.trans hbefore, hafter, hanswers⟩

/-- The rows that a cycle reads are the next page of the newest version of the table. -/
lemma RowCall.exists_table (hserved : Served env d table document)
    (hpaged : Paged d table document delivered c s) (hk : d.constraint = some k)
    (hcolumn : d.base.name k.column = column) (q : RowCall env c s) :
    ∃ t : Table o column, (table s).Grows t ∧ t.Grows (table q.world) ∧
      ∀ answer, q.answer = .ok answer → answer.token = t.newest ∧
        Engine.Evaluates o (pageSteps column (lastText column delivered) k.rowLimit) t.rows
          answer.rows := by
  obtain ⟨t, hbefore, hafter, hanswers⟩ := q.exists_answers hserved
  have hreads := hpaged.standing.reads_rowPlan hserved.archived hk hcolumn q
  exact ⟨t, hbefore, hafter, hanswers _ hreads⟩

/-- The value that a cycle reads is that of the last row of its page. -/
lemma MaxCall.maxValue_eq (hserved : Served env d table document)
    (hpaged : Paged d table document delivered c s) (hk : d.constraint = some k)
    (hcolumn : d.base.name k.column = column) (q : MaxCall env c s) {t : Table o column}
    (hafter : t.Grows (table q.world)) (htoken : q.result.token = t.newest)
    (hpage : Engine.Evaluates o (pageSteps column (lastText column delivered) k.rowLimit) t.rows
      q.result.rows) {a : Engine.QueryResult} (ha : q.reply = .ok a) :
    (lastText column (delivered ++ q.result.rows)).map Except.ok
      = some (Engine.maxValue a.rows) := by
  have hreads := hpaged.standing.reads_maxPlan hserved.archived hk hcolumn q
  obtain ⟨u, hgrown, -, hanswers⟩ := hserved.answers q.plan (some q.result.token) q.world
  rw [q.asked] at hanswers
  have hversion : u.version q.result.token = some t.rows := by
    rw [htoken]
    exact (hafter.trans hgrown).version _ _ t.version_newest
  obtain ⟨-, hout⟩ := hanswers _ hreads a ha t.rows hversion
  obtain ⟨l, hl⟩ : ∃ l, q.result.rows.getLast? = some l :=
    Option.ne_none_iff_exists'.1 fun hnone => q.rows_ne_nil (List.getLast?_eq_none_iff.1 hnone)
  have hrows := Engine.greatest_of_evaluates t.plain hpage hl hout
  have hmem : l ∈ t.rows := Engine.subset_of_evaluates hpage (List.mem_of_getLast? hl)
  obtain ⟨v, hv, hclean⟩ := t.plain.text l hmem
  have hlast : lastText column (delivered ++ q.result.rows) = some v := by
    rw [lastText, List.getLast?_append, hl]
    exact hv
  rw [hlast, hrows, maxValue_cell hv, hclean]
  rfl

/-- A cycle of a job that pages through a table fails only if a call of it fails. -/
lemma Exit.failed (hserved : Served env d table document)
    (hpaged : Paged d table document delivered c s) (hk : d.constraint = some k)
    (hcolumn : d.base.name k.column = column) {r : Traced.Run σ Outcome} (h : Exit env c s r)
    {e : CycleError} (herror : r.value.1 = .error e) : ∃ x ∈ r.exchanges, x.Failed := by
  have hstanding := hpaged.standing
  rcases h.failed_or_malformed hserved.archived hstanding.location_eq (hstanding.isConstrained hk)
    hstanding.finds herror with hfailed | ⟨q, a, f, ha, hvalue⟩
  · exact hfailed
  · -- the page is not empty, so its last row has the greatest value
    obtain ⟨t, hbefore, hafter, hanswers⟩ := q.toRowCall.exists_table hserved hpaged hk hcolumn
    obtain ⟨htoken, hpage⟩ := hanswers q.result q.answered
    have hmax := q.maxValue_eq hserved hpaged hk hcolumn hafter htoken hpage ha
    rw [hvalue] at hmax
    obtain ⟨v, -, hv⟩ := Option.map_eq_some_iff.1 hmax
    cases hv

/-- A cycle that hands on nothing keeps to what was handed on before. -/
lemma Exit.paged (hserved : Served env d table document)
    (hpaged : Paged d table document delivered c s) {r : Traced.Run σ Outcome} (h : Exit env c s r)
    (hnot : ¬ ∃ rows, Delivers c rows r) : Paged d table document delivered r.value.2 r.world := by
  have hgrows : (table s).Grows (table r.world) := h.lasts (hserved.lasting (table s)) (.refl _)
  have hstanding := h.standing hserved.archived hpaged.standing hnot
  exact ⟨hstanding.description, hgrows.progress hpaged.progress, hstanding.finds⟩

/-- What a poll has made of a job that has paged through a table.  Either it has failed, and so has
a call of it, and nothing was handed on; or it has handed on the next page of a version of the table
that was the newest one at some time during the poll. -/
def PollPaged (d : Description) (k : Query.Constraint) (table : σ → Table o column)
    (document : σ → Option String) (delivered : List Row) (s : σ) (r : Traced.Run σ Outcome) :
    Prop :=
  (∃ e, r.value.1 = .error e ∧ (∃ x ∈ r.exchanges, x.Failed) ∧
    Paged d table document delivered r.value.2 r.world) ∨
  ∃ page, r.value.1 = .ok page ∧
    (∃ t : Table o column, (table s).Grows t ∧ t.Grows (table r.world) ∧
      NextPage o column k.rowLimit t.rows delivered page) ∧
    Paged d table document (delivered ++ page) r.value.2 r.world

/-- A cycle that fails goes on paging from where it was. -/
lemma Exit.pollPaged_of_error (hserved : Served env d table document)
    (hpaged : Paged d table document delivered c s) (hk : d.constraint = some k)
    (hcolumn : d.base.name k.column = column) {r : Traced.Run σ Outcome} (h : Exit env c s r)
    {e : CycleError} (herror : r.value.1 = .error e) :
    PollPaged d k table document delivered s r :=
  Or.inl ⟨e, herror, h.failed hserved hpaged hk hcolumn herror,
    h.paged hserved hpaged (not_delivers_of_error herror)⟩

/-- A cycle that has recorded its mark has handed on the next page. -/
lemma MaxCall.pollPaged (hserved : Served env d table document)
    (hpaged : Paged d table document delivered c s) (hk : d.constraint = some k)
    (hcolumn : d.base.name k.column = column) (q : MaxCall env c s) {a : Engine.QueryResult}
    (h : q.reply = .ok a) {value : String} (hvalue : Engine.maxValue a.rows = .ok value)
    {store : Watermark.Store} {u : σ} {xs : List Exchange}
    (hrecord : q.recording value = ⟨(.ok (), store), u, xs⟩) :
    PollPaged d k table document delivered s
      ⟨(.ok q.result.rows, (q.marked store).enter .idle), u, q.exchanges ++ xs⟩ := by
  obtain ⟨t, hbefore, hafter, hanswers⟩ := q.toRowCall.exists_table hserved hpaged hk hcolumn
  obtain ⟨htoken, hpage⟩ := hanswers q.result q.answered
  obtain ⟨rest, hprogress⟩ := hbefore.progress hpaged.progress
  have hnext := Engine.page_of_evaluates t.plain hprogress hpage
  have hmax := q.maxValue_eq hserved hpaged hk hcolumn hafter htoken hpage h
  rw [hvalue] at hmax
  obtain ⟨v, hlast, hv⟩ := Option.map_eq_some_iff.1 hmax
  obtain rfl : v = value := Except.ok.inj hv
  have hrecording := q.recording_cases hrecord
  have hlasting := hserved.lasting t
  have hfinish : t.Grows (table q.finish) := by
    have hnext := hlasting.execute q.plan (some q.result.token) q.world hafter
    rwa [q.asked] at hnext
  have hgrows : t.Grows (table u) :=
    hrecording.lasts hlasting (hlasting.clock q.finish hfinish)
  have hstanding := q.standing_recorded hserved.archived hpaged.standing hvalue hrecord
  refine Or.inr ⟨q.result.rows, rfl, ⟨t, hbefore, hgrows, hnext⟩, hstanding.description,
    hgrows.progress hnext.progress, ?_⟩
  rw [hlast]
  exact hstanding.finds

/-- However a poll ends, its job goes on paging. -/
theorem Exit.pollPaged (hserved : Served env d table document)
    (hpaged : Paged d table document delivered c s) (hk : d.constraint = some k)
    (hcolumn : d.base.name k.column = column) {r : Traced.Run σ Outcome} (h : Exit env c s r) :
    PollPaged d k table document delivered s r := by
  have hexit : Exit env c s r := h
  cases h with
  | unretrieved h => exact hexit.pollPaged_of_error hserved hpaged hk hcolumn rfl
  | rowsRefused q h => exact hexit.pollPaged_of_error hserved hpaged hk hcolumn rfl
  | @drained q a h hnil =>
    obtain ⟨t, hbefore, hafter, hanswers⟩ := q.exists_table hserved hpaged hk hcolumn
    obtain ⟨rest, hprogress⟩ := hbefore.progress hpaged.progress
    have hpage := Engine.page_of_evaluates t.plain hprogress (hanswers a h).2
    rw [hnil] at hpage
    refine Or.inr ⟨[], rfl, ⟨t, hbefore, hafter, hpage⟩, ?_⟩
    rw [List.append_nil]
    exact hexit.paged hserved hpaged (not_delivers_of_nil rfl)
  | unconstrained q h hne hplan =>
    rw [q.maxPlan_eq_none_iff, hpaged.standing.isConstrained hk] at hplan
    cases hplan
  | maxRefused q h => exact hexit.pollPaged_of_error hserved hpaged hk hcolumn rfl
  | malformed q h hvalue => exact hexit.pollPaged_of_error hserved hpaged hk hcolumn rfl
  | unrecorded q h hvalue hrecord =>
    exact hexit.pollPaged_of_error hserved hpaged hk hcolumn rfl
  | recorded q h hvalue hrecord => exact q.pollPaged hserved hpaged hk hcolumn h hvalue hrecord

/-- A poll of a job that pages through a table. -/
theorem pollPaged (hserved : Served env d table document)
    (hpaged : Paged d table document delivered c s) (hk : d.constraint = some k)
    (hcolumn : d.base.name k.column = column) :
    PollPaged d k table document delivered s (tryPoll env.traced c s) :=
  (exit_tryPoll env c s).pollPaged hserved hpaged hk hcolumn

end Poll

/-! ### Runs -/

section Runs

variable {env : Surroundings (StateM σ)} {d : Description} {table : σ → Table o column}
  {document : σ → Option String} {delivered : List Row} {c : Cycle} {s : σ} {k : Query.Constraint}

/-- A job that was just built has paged through nothing yet. -/
lemma paged_start (table : σ → Table o column) (hdocument : document s = none) :
    Paged d table document [] d.start s :=
  ⟨rfl, ⟨_, Progress.start _⟩, finds_start hdocument⟩

/-- A job that is built anew goes on paging, if it has a stored watermark. -/
lemma Paged.polling (hpaged : Paged d table document delivered c s) {anew : Bool}
    (hanew : d.location = none → anew = false) :
    Paged d table document delivered (c.polling anew) s := by
  have hstanding := hpaged.standing.polling hanew
  exact ⟨hstanding.description, hpaged.progress, hstanding.finds⟩

/-- **A run pages through the table.**  This is by induction on the polls: a poll that fails hands
on nothing, and a poll that succeeds goes on where the polls before it have stopped. -/
theorem Paged.polls (hserved : Served env d table document) (hk : d.constraint = some k)
    (hcolumn : d.base.name k.column = column) {flags : List Bool}
    (hflags : d.location = none → ∀ anew ∈ flags, anew = false)
    (hpaged : Paged d table document delivered c s) :
    let r := Cycle.polls env.traced flags c s
    Paged d table document (delivered ++ r.value.1.flatMap handedOn) r.value.2 r.world := by
  induction flags generalizing delivered c s with
  | nil =>
    change Paged d table document (delivered ++ []) c s
    rw [List.append_nil]
    exact hpaged
  | cons anew flags ih =>
    have hfirst : Paged d table document delivered (c.polling anew) s :=
      hpaged.polling fun hnone => hflags hnone anew List.mem_cons_self
    have hlater : d.location = none → ∀ anew ∈ flags, anew = false :=
      fun hnone a ha => hflags hnone a (List.mem_cons_of_mem anew ha)
    rw [polls_cons]
    dsimp only
    rw [List.flatMap_cons, ← List.append_assoc]
    rcases pollPaged hserved hfirst hk hcolumn with ⟨e, he, -, hnext⟩ | ⟨page, hpage, -, hnext⟩
    · rw [he, handedOn, List.append_nil]
      exact ih hlater hnext
    · rw [hpage, handedOn]
      exact ih hlater hnext

end Runs

/-! ### A table that grows while it is paged through -/

/-- Three rows of one column, in ascending order. -/
def threeAuthors : List Row :=
  [⟨[("ID", .string "1")]⟩, ⟨[("ID", .string "2")]⟩, ⟨[("ID", .string "3")]⟩]

lemma plain_threeAuthors : Engine.Plain .byText "ID" threeAuthors := by
  refine Engine.plain_byText ?_ ?_
  · intro r hr
    simp only [threeAuthors, List.mem_cons, List.not_mem_nil, or_false] at hr
    rcases hr with rfl | rfl | rfl
    · exact ⟨"1", rfl, by decide⟩
    · exact ⟨"2", rfl, by decide⟩
    · exact ⟨"3", rfl, by decide⟩
  · simp [threeAuthors, Engine.Row.text?, Engine.Row.get?, Members.find?, Engine.scalarText]

lemma ascending_threeAuthors : threeAuthors.Pairwise (Collation.byText.Below "ID") := by
  have hsorted : ["1", "2", "3"].Pairwise (· < ·) := by decide
  have hrows : ["1", "2", "3"].map (fun v => (⟨[("ID", .string v)]⟩ : Row)) = threeAuthors := rfl
  rw [← hrows, List.pairwise_map]
  exact hsorted.imp fun hlt => (Engine.below_byText rfl rfl).2 hlt

/-- The number of rows after an engine call: one more, up to three. -/
def oneMore (n : UInt64) : UInt64 :=
  if n < 3 then n + 1 else n

lemma le_oneMore (n : UInt64) : n ≤ oneMore n := by
  unfold oneMore
  split
  next h =>
    rw [UInt64.lt_iff_toNat_lt] at h
    rw [UInt64.le_iff_toNat_le, UInt64.toNat_add]
    have h3 : (3 : UInt64).toNat = 3 := rfl
    have h1 : (1 : UInt64).toNat = 1 := rfl
    omega
  next => exact UInt64.le_refl n

/-- The answer of an engine to a plan over three authors, when there are so many rows; with two rows
it gives none. -/
def authorsAnswer (n : UInt64) (plan : Query.Plan) (point : Option Engine.PointInTime) :
    Except Engine.EngineError Engine.QueryResult :=
  match Query.Base.stepsAfter "op.fromView('demo', 'authors')" plan with
  | none => .error (.other "unreadable plan")
  | some steps =>
    if n = 2 then .error .transport
    else
      let token := point.getD ⟨n⟩
      .ok ⟨Engine.evaluate .byText steps (threeAuthors.take token.value.toNat), token⟩

/-- Surroundings in which every engine call, answered or not, is followed by the insertion of a
row. -/
def growingAuthors : Surroundings (StateM (UInt64 × Option String)) where
  engine.execute plan point s := (authorsAnswer s.1 plan point, (oneMore s.1, s.2))
  documents.read _ s := (.ok s.2, s)
  documents.write _ body s := (.ok (), (s.1, some body.compact))
  now := pure ⟨2024, 5, 1, 0, 0, 0, 0⟩

/-- The rows that have been inserted. -/
def authorsTable (s : UInt64 × Option String) : Table .byText "ID" :=
  .beginning plain_threeAuthors s.1

/-- An answer is read from the version that was asked for. -/
lemma answers_authorsAnswer {n : UInt64} {plan : Query.Plan} {point : Option Engine.PointInTime}
    {steps : List Query.Step} (hreads : authors.base.Reads plan steps)
    {answer : Engine.QueryResult} (h : authorsAnswer n plan point = .ok answer) :
    (Table.beginning plain_threeAuthors n).Answers steps point answer := by
  rw [authorsAnswer, hreads.stepsAfter_eq] at h
  by_cases hn : n = 2
  · simp only [hn, if_true] at h
    cases h
  · simp only [hn, if_false] at h
    obtain rfl := Except.ok.inj h
    have hevaluates := Engine.evaluates_evaluate Collation.ordered_byText steps
    cases point with
    | none => exact ⟨rfl, hevaluates _⟩
    | some point =>
      intro rows hrows
      obtain rfl := Option.some.inj hrows
      exact ⟨rfl, hevaluates _⟩

lemma served_growingAuthors : Served growingAuthors authors authorsTable Prod.snd where
  execute _ _ _ := rfl
  read _ _ := rfl
  clock _ := rfl
  refused _ _ _ _ _ h := by cases h
  answers plan point s := by
    refine ⟨authorsTable s, .refl _, ?_, ?_⟩
    · exact Table.grows_beginning plain_threeAuthors ascending_threeAuthors (le_oneMore s.1)
    · intro steps hreads answer h
      exact answers_authorsAnswer hreads h
  growsRead _ _ := .refl _
  growsWrite _ _ _ := .refl _
  growsClock _ := .refl _
  found _ _ _ _ h := by cases h; rfl
  stored _ _ _ _ _ h := by
    left
    cases h
    rfl
  valid _ := by
    change Time.Instant.Valid ⟨2024, 5, 1, 0, 0, 0, 0⟩
    decide

end Cycle

end Tidemark
