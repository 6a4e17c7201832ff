import Tidemark.Proofs.Cycle.StillTable

/-!
# What pages leave out

A job pages through a table that does not change, in which several rows may have the same value.
Its batches, the rows that it has passed over and the rows above its watermark make up the table at
any time (`Covers`), and a row is passed over only if it is tied with the last row of a batch that
was cut off at the limit (`PassedOver`).  This is an invariant of a poll (`Covers.batch`), so it
holds after any number of polls.  A poll that finds nothing more therefore says that every row was
handed on except those passed over (`every_row_unless_passed_over`).  There are none of these
without a limit or without ties, but two rows with one value are enough for a row that is never
handed on (`twin_is_passed_over`).
-/

namespace Tidemark.Cycle

open Engine (Row Collation Ranked Batch above)
open scoped List

variable {σ : Type} {o : Collation} {column : String} {rows : List Row}
  {limit : Option UInt64} {batches : List (List Row)} {watermark : Option String}

/-- A row has the same value as the last row of a batch that was cut off at the limit. -/
def PassedOver (o : Collation) (column : String) (limit : Option UInt64)
    (batches : List (List Row)) (x : Row) : Prop :=
  ∃ page ∈ batches, (∃ l, page.getLast? = some l ∧ o.Tied column x l) ∧
    ∃ n, limit = some n ∧ n.toNat = page.length

lemma PassedOver.append {x : Row} (h : PassedOver o column limit batches x)
    (later : List (List Row)) : PassedOver o column limit (batches ++ later) x := by
  obtain ⟨page, hpage, hlast, hcut⟩ := h
  exact ⟨page, List.mem_append_left later hpage, hlast, hcut⟩

/-- The watermark is the value of a row, and the batches, the rows passed over and the rows above
the watermark make up the table. -/
structure Covers (o : Collation) (column : String) (limit : Option UInt64) (rows : List Row)
    (batches : List (List Row)) (watermark : Option String) : Prop where
  known : ∀ u ∈ watermark, ∃ b ∈ rows, b.text? column = some u
  perm : ∃ passed : List Row,
    rows.Perm (batches.flatten ++ (passed ++ above o column watermark rows)) ∧
      ∀ x ∈ passed, PassedOver o column limit batches x

namespace Covers

/-- At first everything lies above the watermark. -/
lemma start (rows : List Row) : Covers o column limit rows [] none :=
  ⟨by simp, [], .refl rows, by simp⟩

/-- A poll that hands on nothing changes nothing. -/
lemma idle (h : Covers o column limit rows batches watermark) :
    Covers o column limit rows (batches ++ [[]]) watermark := by
  obtain ⟨passed, hperm, hpassed⟩ := h.perm
  refine ⟨h.known, passed, ?_, fun x hx => (hpassed x hx).append [[]]⟩
  rw [List.flatten_concat, List.append_nil]
  exact hperm

/-- A batch is taken from the rows above the watermark, and some of them may be passed over. -/
lemma batch (hranked : Ranked o column rows)
    (hclean : ∀ r ∈ rows, ∀ v, r.text? column = some v → Query.sanitize v = v)
    (h : Covers o column limit rows batches watermark) {page : List Row} {v : String}
    (hbatch : Batch o column watermark limit rows page v) :
    Covers o column limit rows (batches ++ [page]) (some (Query.sanitize v)) := by
  obtain ⟨passed, hperm, hpassed⟩ := h.perm
  obtain ⟨passed', hperm', hpassed'⟩ := hbatch.exists_passed hranked h.known
  obtain ⟨l, g, -, hg, hv, -⟩ := hbatch.last
  rw [hclean g hg v hv]
  refine ⟨?_, passed ++ passed', ?_, ?_⟩
  · rintro u ⟨rfl⟩
    exact ⟨g, hg, hv⟩
  · rw [List.flatten_concat]
    calc rows
        _ ~ batches.flatten ++ (passed ++ above o column watermark rows) := hperm
        _ ~ batches.flatten ++ (passed ++ (page ++ (passed' ++ above o column (some v) rows))) :=
          (hperm'.append_left passed).append_left _
        _ ~ batches.flatten ++ (page ++ (passed ++ (passed' ++ above o column (some v) rows))) :=
          (List.perm_append_comm_assoc passed page _).append_left _
        _ = (batches.flatten ++ page) ++ ((passed ++ passed') ++ above o column (some v) rows) := by
          simp only [List.append_assoc]
  · intro x hx
    rcases List.mem_append.1 hx with hx | hx
    · exact (hpassed x hx).append [page]
    · obtain ⟨hlast, hcut⟩ := hpassed' x hx
      exact ⟨page, List.mem_append_right batches (List.mem_singleton_self page), hlast, hcut⟩

/-- Not more rows are handed on than there are. -/
lemma length_flatten_le (h : Covers o column limit rows batches watermark) :
    batches.flatten.length ≤ rows.length := by
  obtain ⟨passed, hperm, -⟩ := h.perm
  rw [hperm.length_eq, List.length_append]
  exact Nat.le_add_right _ _

/-- Once no rows are left above the watermark, those that are missing were passed over, and they are
tied with rows that are not. -/
lemma exhausted (hranked : Ranked o column rows)
    (h : Covers o column limit rows batches watermark)
    (hnil : above o column watermark rows = []) :
    (∃ passed : List Row, rows.Perm (batches.flatten ++ passed) ∧
        ∀ x ∈ passed, PassedOver o column limit batches x) ∧
      (∀ x ∈ rows, ∃ y ∈ batches.flatten, o.Tied column x y) ∧
      (limit = none ∨ (rows.Pairwise fun a b => ¬ o.Tied column a b) →
        rows.Perm batches.flatten) := by
  obtain ⟨passed, hperm, hpassed⟩ := h.perm
  rw [hnil, List.append_nil] at hperm
  refine ⟨⟨passed, hperm, hpassed⟩, ?_, ?_⟩
  · intro x hx
    rcases List.mem_append.1 (hperm.mem_iff.1 hx) with hdelivered | hx'
    · exact ⟨x, hdelivered, hranked.refl hx, hranked.refl hx⟩
    · obtain ⟨page, hpage, ⟨l, hl, htied⟩, -⟩ := hpassed x hx'
      exact ⟨l, List.mem_flatten_of_mem hpage (List.mem_of_getLast? hl), htied⟩
  · intro hnone
    have hpassedNil : passed = [] := by
      rw [List.eq_nil_iff_forall_not_mem]
      intro x hx
      obtain ⟨page, hpage, ⟨l, hl, htied⟩, n, hn, -⟩ := hpassed x hx
      rcases hnone with hlimit | hdistinct
      · cases hlimit.symm.trans hn
      · have hsymm : ∀ {a b : Row}, ¬ o.Tied column a b → ¬ o.Tied column b a :=
          fun hab hba => hab hba.symm
        have hsplit := (hperm.pairwise_iff hsymm).1 hdistinct
        have hlmem : l ∈ batches.flatten :=
          List.mem_flatten_of_mem hpage (List.mem_of_getLast? hl)
        exact (List.pairwise_append.1 hsplit).2.2 l hlmem x hx htied.symm
    rwa [hpassedNil, List.append_nil] at hperm

end Covers

/-- Every batch with rows has at least one row. -/
lemma countP_not_isEmpty_le (batches : List (List Row)) :
    (batches.countP fun page => !page.isEmpty) ≤ batches.flatten.length := by
  induction batches with
  | nil => simp
  | cons page batches ih =>
    rw [List.countP_cons, List.flatten_cons, List.length_append]
    cases page with
    | nil => simpa using ih
    | cons r page =>
      simp only [List.isEmpty_cons, Bool.not_false, if_true, List.length_cons]
      omega

section Run

variable {env : Surroundings (StateM σ)} {d : Description} {document : σ → Option String} {s : σ}
  {k : Query.Constraint}

/-- **Every row is handed on, unless it is passed over.**  Let an engine evaluate plans over a table
that does not change and in which rows may have the same value; let calls fail, and let a job with a
stored watermark be built anew before any of its polls.  There are at most as many batches with rows
as rows, and a poll fails only if a call of it fails.  Once a poll finds nothing more, every row was
handed on once, except those passed over at the end of a batch, and of every value some row was
handed on.  Without a limit or without ties no row is passed over. -/
theorem every_row_unless_passed_over (hstill : Still env d o rows document)
    (hranked : Ranked o column rows)
    (hclean : ∀ r ∈ rows, ∀ v, r.text? column = some v → Query.sanitize v = v)
    (hk : d.constraint = some k) (hcolumn : d.base.name k.column = column)
    (hdocument : document s = none) {flags : List Bool}
    (hflags : d.location = none → ∀ anew ∈ flags, anew = false) {anew : Bool}
    (hanew : d.location = none → anew = false) :
    let r := Cycle.polls env.traced flags d.start s
    let batches := r.value.1.map handedOn
    let q := tryPoll env.traced (r.value.2.polling anew) r.world
    (∀ e, q.value.1 = .error e → ∃ x ∈ q.exchanges, x.Failed) ∧
      (batches.countP fun page => !page.isEmpty) ≤ rows.length ∧
      (q.value.1 = .ok [] →
        (∃ passed : List Row, rows.Perm (batches.flatten ++ passed) ∧
          ∀ x ∈ passed, PassedOver o column k.rowLimit batches x) ∧
        (∀ x ∈ rows, ∃ y ∈ batches.flatten, o.Tied column x y) ∧
        (k.rowLimit = none ∨ (rows.Pairwise fun a b => ¬ o.Tied column a b) →
          rows.Perm batches.flatten)) := by
  intro r batches q
  obtain ⟨w, hcovers, hstanding⟩ := (Standing.start hdocument).polls_induction hstill hranked hk
    hcolumn (I := fun batches w => Covers o column k.rowLimit rows batches w)
    (fun _ _ h => h.idle) (fun _ _ _ _ h hbatch => h.batch hranked hclean hbatch) hflags
    (Covers.start rows)
  rw [List.nil_append] at hcovers
  have hcount : (batches.countP fun page => !page.isEmpty) ≤ rows.length :=
    (countP_not_isEmpty_le batches).trans hcovers.length_flatten_le
  cases (hstanding.polling hanew).turn hstill hranked hk hcolumn with
  | refused hresult hfailed hnext =>
    refine ⟨fun _ _ => hfailed, hcount, ?_⟩
    intro hempty
    cases hresult.symm.trans hempty
  | drained hresult hpage hnext =>
    refine ⟨?_, hcount, fun _ => ?_⟩
    · intro e he
      cases hresult.symm.trans he
    · exact hcovers.exhausted hranked (Engine.above_eq_nil_of_evaluates k.limit_pos hpage)
  | advanced hresult hbatch hnext =>
    refine ⟨?_, hcount, ?_⟩
    · intro e he
      cases hresult.symm.trans he
    · intro hempty
      obtain ⟨l, -, hl, -⟩ := hbatch.last
      obtain rfl := Except.ok.inj (hresult.symm.trans hempty)
      cases hl

end Run

/-! ### Two rows with one value -/

/-- Two rows with the same value. -/
def twins : List Row :=
  [⟨[("ID", .string "1"), ("NAME", .string "Ada")]⟩,
    ⟨[("ID", .string "1"), ("NAME", .string "Bea")]⟩]

/-- The answers of an engine to the plans of a job that reads one of two twins at a time. -/
def twinAnswers : List (List Query.Step × List Row) :=
  [([.orderBy .ascending "ID", .limit 1],
      [⟨[("ID", .string "1"), ("NAME", .string "Ada")]⟩]),
    ([.orderBy .ascending "ID", .limit 1, .orderBy .descending "ID", .limit 1,
        .selectAs "constraint" "ID"],
      [⟨[("constraint", .string "1")]⟩]),
    ([.whereGreater "ID" "1", .orderBy .ascending "ID", .limit 1], [])]

lemma still_twins : Still (knowing twinAnswers) oneByOne .byText twins fun _ => none := by
  refine still_knowing ?_
  simp only [twinAnswers, List.forall_mem_cons, List.not_mem_nil, false_imp_iff,
    implies_true, and_true]
  cbv

lemma ranked_twins : Ranked .byText "ID" twins := by
  refine Engine.ranked_byText fun r hr => ⟨"1", ?_⟩
  simp only [twins, List.mem_cons, List.not_mem_nil, or_false] at hr
  rcases hr with rfl | rfl <;> rfl

lemma clean_twins : ∀ r ∈ twins, ∀ v, r.text? "ID" = some v → Query.sanitize v = v := by
  intro r hr v hv
  have hone : r.text? "ID" = some "1" := by
    simp only [twins, List.mem_cons, List.not_mem_nil, or_false] at hr
    rcases hr with rfl | rfl <;> rfl
  obtain rfl := Option.some.inj (hone.symm.trans hv)
  decide

/-- The first poll of a job that reads one of two twins at a time. -/
def twinPoll : Traced.Run Unit (List Result × Cycle) :=
  Cycle.polls (knowing twinAnswers).traced [false] oneByOne.start ()

/-- The first poll hands on one of the twins. -/
lemma handedOn_twinPoll : twinPoll.value.1.flatMap handedOn
    = [⟨[("ID", .string "1"), ("NAME", .string "Ada")]⟩] := by
  with_unfolding_all rfl

/-- The second poll finds nothing. -/
lemma twinPoll_drained :
    (tryPoll (knowing twinAnswers).traced twinPoll.value.2 twinPoll.world).value.1 = .ok [] := by
  with_unfolding_all rfl

/-- Both twins are read from the table, or tied with the row that is, and one is passed over. -/
theorem twins_read_or_passed_over :
    Still (knowing twinAnswers) oneByOne .byText twins (fun _ => none) ∧
      Ranked .byText "ID" twins ∧
      (∀ r ∈ twins, ∀ v, r.text? "ID" = some v → Query.sanitize v = v) ∧
      (tryPoll (knowing twinAnswers).traced twinPoll.value.2 twinPoll.world).value.1 = .ok [] ∧
      ∃ passed : List Row, twins.Perm ((twinPoll.value.1.map handedOn).flatten ++ passed) ∧
        ∀ x ∈ passed, PassedOver .byText "ID" (some 1) (twinPoll.value.1.map handedOn) x := by
  have hcolumn : oneByOne.base.name "ID" = "ID" := rfl
  have hflags : oneByOne.location = none → ∀ anew ∈ [false], anew = false := by simp
  have hanew : oneByOne.location = none → false = false := fun _ => rfl
  have hrun := every_row_unless_passed_over still_twins ranked_twins clean_twins rfl hcolumn
    (s := ()) rfl hflags hanew
  exact ⟨still_twins, ranked_twins, clean_twins, twinPoll_drained, (hrun.2.2 twinPoll_drained).1⟩

/-- One of two twins is never handed on: the second poll finds nothing any more, because it looks
above the value that the twins share. -/
theorem twin_is_passed_over :
    Still (knowing twinAnswers) oneByOne .byText twins (fun _ => none) ∧
      Ranked .byText "ID" twins ∧
      (∀ r ∈ twins, ∀ v, r.text? "ID" = some v → Query.sanitize v = v) ∧
      (tryPoll (knowing twinAnswers).traced twinPoll.value.2 twinPoll.world).value.1 = .ok [] ∧
      ¬ twins ⊆ twinPoll.value.1.flatMap handedOn := by
  refine ⟨still_twins, ranked_twins, clean_twins, twinPoll_drained, ?_⟩
  intro hsubset
  have hmem := hsubset (List.mem_cons_of_mem _ (List.mem_singleton_self _))
  rw [handedOn_twinPoll, List.mem_singleton] at hmem
  have hnames := congrArg (fun r : Row => r.text? "NAME") hmem
  revert hnames
  decide

end Tidemark.Cycle
