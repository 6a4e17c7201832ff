import Tidemark.Proofs.Cycle.StillTable

/-!
# Watermarks in the order of texts

Rows are compared by the texts of one column, which are pairwise different but otherwise arbitrary.
A batch lies above the watermark, and the next watermark is the text of its last row, sanitized.  As
long as sanitizing lowers none of these texts, what was handed on lies at or below the watermark
(`Passed`), so no row is handed on twice and the watermark never decreases
(`no_row_twice_unless_lowered`).  Sanitizing may put a text into another place of the order,
however.  If it is lowered, the rows between the sanitized text and the text itself are above the
watermark again (`first_mark_comes_again`).
-/

namespace Tidemark.Cycle

open Engine (Row Collation Ranked Batch above)

variable {σ : Type} {column : String} {rows : List Row} {limit : Option UInt64}
  {batches : List (List Row)} {watermark : Option String}

/-! ### Batches -/

section Batches

variable {page : List Row} {greatest : String}

/-- The rows of a batch lie above the watermark and up to the text of the last row. -/
lemma between_of_batch (htext : ∀ r ∈ rows, ∃ v, r.text? column = some v)
    (hbatch : Batch .byText column watermark limit rows page greatest) {r : Row} (hr : r ∈ page) :
    ∃ v, r.text? column = some v ∧ (∀ w ∈ watermark, w < v) ∧ v ≤ greatest := by
  obtain ⟨hpage, l, g, hl, hg, hgreatest, htied⟩ := hbatch
  have hranked : Ranked .byText column rows := Engine.ranked_byText htext
  have habove : r ∈ above .byText column watermark rows :=
    Engine.subset_above_of_evaluates hpage hr
  have hrows : page ⊆ rows := Engine.subset_of_evaluates hpage
  obtain ⟨v, hv⟩ := htext r (hrows hr)
  refine ⟨v, hv, ?_, ?_⟩
  · rintro w rfl
    obtain ⟨-, hexceeds⟩ := List.mem_filter.1 habove
    rw [hranked.get?_eq (hrows hr), Option.any_some] at hexceeds
    simpa [Collation.byText, Row.scalarText_cell hv] using hexceeds
  · have hrl := Engine.atMost_last_of_evaluates hranked hpage hl hr
    have hrg := hranked.trans r (hrows hr) l (hrows (List.mem_of_getLast? hl)) g hg hrl htied.1
    exact (Engine.atMost_byText hv hgreatest).1 hrg

/-- The greatest text of a batch is that of its last row. -/
lemma text_last_of_batch (htext : ∀ r ∈ rows, ∃ v, r.text? column = some v)
    (hbatch : Batch .byText column watermark limit rows page greatest) :
    ∃ l, page.getLast? = some l ∧ l.text? column = some greatest := by
  obtain ⟨l, g, hl, hg, hgreatest, htied⟩ := hbatch.last
  obtain ⟨v, hv, -, -⟩ := between_of_batch htext hbatch (List.mem_of_getLast? hl)
  have hle : v ≤ greatest := (Engine.atMost_byText hv hgreatest).1 htied.1
  have hge : greatest ≤ v := (Engine.atMost_byText hgreatest hv).1 htied.2
  rw [le_antisymm hle hge] at hv
  exact ⟨l, hl, hv⟩

/-- A batch of a table without ties has no row twice. -/
lemma nodup_of_batch (hdistinct : rows.Pairwise fun a b => a.text? column ≠ b.text? column)
    (hbatch : Batch .byText column watermark limit rows page greatest) : page.Nodup := by
  have hnodup : rows.Nodup := hdistinct.imp fun hne heq => hne (by rw [heq])
  obtain ⟨later, hperm, -, -⟩ := Engine.exists_append_of_evaluates hbatch.evaluates
  have habove : (above .byText column watermark rows).Nodup := by
    cases watermark with
    | none => exact hnodup
    | some w => exact hnodup.filter _
  exact (List.nodup_append.1 (hperm.nodup_iff.2 habove)).1

end Batches

/-! ### Runs -/

/-- Sanitizing does not lower the text of the last row of a batch. -/
def NotLowered (column : String) (page : List Row) : Prop :=
  ∀ l ∈ page.getLast?, ∀ v ∈ l.text? column, v ≤ Query.sanitize v

/-- What was handed on lies at or below the watermark, and no row was handed on twice. -/
structure Passed (column : String) (batches : List (List Row)) (watermark : Option String) :
    Prop where
  nodup : batches.flatten.Nodup
  atMost : ∀ r ∈ batches.flatten, ∃ v, r.text? column = some v ∧ ∃ w ∈ watermark, v ≤ w

namespace Passed

/-- A batch above the watermark has no row that was handed on before. -/
lemma nodup_append (htext : ∀ r ∈ rows, ∃ v, r.text? column = some v)
    (hdistinct : rows.Pairwise fun a b => a.text? column ≠ b.text? column)
    (h : Passed column batches watermark) {page : List Row} {greatest : String}
    (hbatch : Batch .byText column watermark limit rows page greatest) :
    (batches.flatten ++ page).Nodup := by
  refine List.nodup_append.2 ⟨h.nodup, nodup_of_batch hdistinct hbatch, ?_⟩
  rintro r hr r' hr' rfl
  obtain ⟨v, hv, w, hw, hle⟩ := h.atMost r hr
  obtain ⟨v', hv', hlt, -⟩ := between_of_batch htext hbatch hr'
  obtain rfl := Option.some.inj (hv.symm.trans hv')
  exact absurd (hlt w hw) (not_lt_of_ge hle)

/-- A batch whose last text is not lowered lies at or below the next watermark, and so does what was
handed on before. -/
lemma batch (htext : ∀ r ∈ rows, ∃ v, r.text? column = some v)
    (hdistinct : rows.Pairwise fun a b => a.text? column ≠ b.text? column)
    (h : Passed column batches watermark) {page : List Row} {greatest : String}
    (hbatch : Batch .byText column watermark limit rows page greatest)
    (hkept : greatest ≤ Query.sanitize greatest) :
    Passed column (batches ++ [page]) (some (Query.sanitize greatest)) := by
  refine ⟨?_, ?_⟩
  · rw [List.flatten_concat]
    exact h.nodup_append htext hdistinct hbatch
  · obtain ⟨l, hl, hgreatest⟩ := text_last_of_batch htext hbatch
    obtain ⟨v, hv, hlt, hle⟩ := between_of_batch htext hbatch (List.mem_of_getLast? hl)
    intro r hr
    rw [List.flatten_concat] at hr
    rcases List.mem_append.1 hr with hr | hr
    · obtain ⟨x, hx, w, hw, hxw⟩ := h.atMost r hr
      exact ⟨x, hx, _, rfl, hxw.trans ((hlt w hw).le.trans (hle.trans hkept))⟩
    · obtain ⟨x, hx, -, hxle⟩ := between_of_batch htext hbatch hr
      exact ⟨x, hx, _, rfl, hxle.trans hkept⟩

/-- A poll that hands on nothing changes nothing. -/
lemma idle (h : Passed column batches watermark) : Passed column (batches ++ [[]]) watermark := by
  obtain ⟨hnodup, hatMost⟩ := h
  refine ⟨?_, ?_⟩
  · rwa [List.flatten_concat, List.append_nil]
  · rwa [List.flatten_concat, List.append_nil]

end Passed

/-- Batches consist of rows of the table, and unless one of them ends with a text that is lowered,
they lie at or below the watermark. -/
structure Ordered (column : String) (rows : List Row) (batches : List (List Row))
    (watermark : Option String) : Prop where
  subset : ∀ page ∈ batches, page ⊆ rows
  passed : (∀ page ∈ batches, NotLowered column page) → Passed column batches watermark

namespace Ordered

/-- At first nothing was handed on. -/
lemma start (column : String) (rows : List Row) : Ordered column rows [] none :=
  ⟨by simp, fun _ => ⟨by simp, by simp⟩⟩

/-- A poll that hands on nothing changes nothing. -/
lemma idle (h : Ordered column rows batches watermark) :
    Ordered column rows (batches ++ [[]]) watermark := by
  refine ⟨?_, fun hkept => (h.passed fun page hpage => ?_).idle⟩
  · intro page hpage
    rcases List.mem_append.1 hpage with hpage | hpage
    · exact h.subset page hpage
    · rw [List.mem_singleton.1 hpage]
      exact List.nil_subset rows
  · exact hkept page (List.mem_append_left _ hpage)

/-- A batch keeps the order. -/
lemma batch (htext : ∀ r ∈ rows, ∃ v, r.text? column = some v)
    (hdistinct : rows.Pairwise fun a b => a.text? column ≠ b.text? column)
    (h : Ordered column rows batches watermark) {page : List Row} {greatest : String}
    (hbatch : Batch .byText column watermark limit rows page greatest) :
    Ordered column rows (batches ++ [page]) (some (Query.sanitize greatest)) := by
  refine ⟨?_, ?_⟩
  · intro page' hpage'
    rcases List.mem_append.1 hpage' with hpage' | hpage'
    · exact h.subset page' hpage'
    · rw [List.mem_singleton.1 hpage']
      exact Engine.subset_of_evaluates hbatch.evaluates
  · intro hkept
    obtain ⟨l, hl, hgreatest⟩ := text_last_of_batch htext hbatch
    have hlast : greatest ≤ Query.sanitize greatest :=
      hkept page (List.mem_append_right batches (List.mem_singleton_self page)) l hl greatest
        hgreatest
    have hpassed : Passed column batches watermark :=
      h.passed fun page' hpage' => hkept page' (List.mem_append_left _ hpage')
    exact hpassed.batch htext hdistinct hbatch hlast

end Ordered

section Run

variable {env : Surroundings (StateM σ)} {d : Description} {document : σ → Option String} {s : σ}
  {k : Query.Constraint}

/-- **No row is handed on twice, unless sanitizing lowers a watermark.**  Let an engine compare the
texts of a column, which are pairwise different, in a table that does not change; let calls fail,
and let a job with a stored watermark be built anew before any of its polls.  If no batch so far
ends with a text that is less when it is sanitized, then no row was handed on twice, and the next
poll hands on none of them again.  And the next poll does not make the watermark less, unless its
own batch ends with such a text. -/
theorem no_row_twice_unless_lowered (hstill : Still env d .byText rows document)
    (htext : ∀ r ∈ rows, ∃ v, r.text? column = some v)
    (hdistinct : rows.Pairwise fun a b => a.text? column ≠ b.text? column)
    (hk : d.constraint = some k) (hcolumn : d.base.name k.column = column)
    (hdocument : document s = none) {flags : List Bool}
    (hflags : d.location = none → ∀ anew ∈ flags, anew = false) {anew : Bool}
    (hanew : d.location = none → anew = false) :
    let r := Cycle.polls env.traced flags d.start s
    let batches := r.value.1.map handedOn
    let q := tryPoll env.traced (r.value.2.polling anew) r.world
    (∀ e, q.value.1 = .error e → ∃ x ∈ q.exchanges, x.Failed) ∧
      (∀ page ∈ batches, page ⊆ rows) ∧
      ((∀ page ∈ batches, NotLowered column page) →
        (batches.flatten ++ handedOn q.value.1).Nodup ∧
        ∃ w w', Finds document r.value.2 r.world w ∧ Finds document q.value.2 q.world w' ∧
          (NotLowered column (handedOn q.value.1) → ∀ v ∈ w, ∃ v' ∈ w', v ≤ v')) := by
  intro r batches q
  have hranked : Ranked .byText column rows := Engine.ranked_byText htext
  obtain ⟨w, hordered, hstanding⟩ := (Standing.start hdocument).polls_induction hstill hranked hk
    hcolumn (I := Ordered column rows) (fun _ _ h => h.idle)
    (fun _ _ _ _ h hbatch => h.batch htext hdistinct hbatch) hflags (Ordered.start column rows)
  rw [List.nil_append] at hordered
  cases (hstanding.polling hanew).turn hstill hranked hk hcolumn with
  | refused hresult hfailed hnext =>
    refine ⟨fun _ _ => hfailed, hordered.subset, fun hkept => ⟨?_, w, w, hstanding.finds,
      hnext.finds, fun _ v hv => ⟨v, hv, le_refl v⟩⟩⟩
    rw [hresult, handedOn, List.append_nil]
    exact (hordered.passed hkept).nodup
  | drained hresult hpage hnext =>
    refine ⟨?_, hordered.subset, fun hkept => ⟨?_, w, w, hstanding.finds, hnext.finds,
      fun _ v hv => ⟨v, hv, le_refl v⟩⟩⟩
    · intro e he
      cases hresult.symm.trans he
    · rw [hresult, handedOn, List.append_nil]
      exact (hordered.passed hkept).nodup
  | advanced hresult hbatch hnext =>
    refine ⟨?_, hordered.subset, fun hkept => ⟨?_, w, _, hstanding.finds, hnext.finds, ?_⟩⟩
    · intro e he
      cases hresult.symm.trans he
    · rw [hresult]
      exact (hordered.passed hkept).nodup_append htext hdistinct hbatch
    · intro hlast v hv
      rw [hresult] at hlast
      obtain ⟨l, hl, hgreatest⟩ := text_last_of_batch htext hbatch
      obtain ⟨x, hx, hlt, hle⟩ := between_of_batch htext hbatch (List.mem_of_getLast? hl)
      exact ⟨_, rfl, (hlt v hv).le.trans (hle.trans (hlast l hl _ hgreatest))⟩

end Run

/-! ### Two texts that are sanitized -/

/-- Two rows whose texts are a punctuation mark each. -/
def marks : List Row :=
  [⟨[("ID", .string "!")]⟩, ⟨[("ID", .string ")")]⟩]

/-- The answers of an engine to the plans of a job that reads one of the two marks at a time. -/
def markAnswers : List (List Query.Step × List Row) :=
  let page : Option String → List Query.Step := fun w => Engine.pageSteps "ID" w (some 1)
  let greatest : List Query.Step := Engine.greatestSteps "constraint" "ID"
  [(page none, [⟨[("ID", .string "!")]⟩]),
    (page none ++ greatest, [⟨[("constraint", .string "!")]⟩]),
    (page (some "!"), [⟨[("ID", .string ")")]⟩]),
    (page (some "!") ++ greatest, [⟨[("constraint", .string ")")]⟩]),
    (page (some ""), [⟨[("ID", .string "!")]⟩]),
    (page (some "") ++ greatest, [⟨[("constraint", .string "!")]⟩])]

lemma still_marks : Still (knowing markAnswers) oneByOne .byText marks fun _ => none := by
  refine still_knowing ?_
  simp only [markAnswers, List.forall_mem_cons, List.not_mem_nil, false_imp_iff,
    implies_true, and_true]
  cbv

lemma text_marks : ∀ r ∈ marks, ∃ v, r.text? "ID" = some v := by
  intro r hr
  simp only [marks, List.mem_cons, List.not_mem_nil, or_false] at hr
  rcases hr with rfl | rfl
  · exact ⟨"!", rfl⟩
  · exact ⟨")", rfl⟩

lemma distinct_marks : marks.Pairwise fun a b => a.text? "ID" ≠ b.text? "ID" := by
  simp [marks, Row.text?, Row.get?, Members.find?, Engine.scalarText]

/-- So many polls of a job that reads one of the two marks at a time. -/
def markPolls (n : ℕ) : Traced.Run Unit (List Result × Cycle) :=
  Cycle.polls (knowing markAnswers).traced (List.replicate n false) oneByOne.start ()

/-- The first poll hands on the lesser mark. -/
lemma handedOn_markPolls_one : (markPolls 1).value.1.map handedOn
    = [[⟨[("ID", .string "!")]⟩]] := by
  with_unfolding_all rfl

/-- The first batch ends with a mark that is not lowered, so the second one is new. -/
theorem second_mark_is_new :
    Still (knowing markAnswers) oneByOne .byText marks (fun _ => none) ∧
      (∀ r ∈ marks, ∃ v, r.text? "ID" = some v) ∧
      (marks.Pairwise fun a b => a.text? "ID" ≠ b.text? "ID") ∧
      (∀ page ∈ (markPolls 1).value.1.map handedOn, NotLowered "ID" page) ∧
      (((markPolls 1).value.1.map handedOn).flatten ++ handedOn (tryPoll
        (knowing markAnswers).traced (markPolls 1).value.2 (markPolls 1).world).value.1).Nodup := by
  have hcolumn : oneByOne.base.name "ID" = "ID" := rfl
  have hflags : oneByOne.location = none → ∀ anew ∈ [false], anew = false := by simp
  have hanew : oneByOne.location = none → false = false := fun _ => rfl
  have hkept : ∀ page ∈ (markPolls 1).value.1.map handedOn, NotLowered "ID" page := by
    rw [handedOn_markPolls_one]
    intro page hpage l hl v hv
    rw [List.mem_singleton.1 hpage] at hl
    obtain rfl := Option.some.inj hl
    obtain rfl : "!" = v := Option.some.inj hv
    decide
  have hrun := no_row_twice_unless_lowered still_marks text_marks distinct_marks rfl hcolumn
    (s := ()) rfl hflags hanew
  exact ⟨still_marks, text_marks, distinct_marks, hkept, (hrun.2.2 hkept).1⟩

/-- A closing parenthesis is less when it is sanitized.  After it was handed on the watermark is
less than before, and the row that was handed on first is handed on again. -/
theorem first_mark_comes_again :
    Still (knowing markAnswers) oneByOne .byText marks (fun _ => none) ∧
      (∀ r ∈ marks, ∃ v, r.text? "ID" = some v) ∧
      (marks.Pairwise fun a b => a.text? "ID" ≠ b.text? "ID") ∧
      Finds (fun _ => none) (markPolls 1).value.2 (markPolls 1).world (some "!") ∧
      Finds (fun _ => none) (markPolls 2).value.2 (markPolls 2).world (some "") ∧ "" < "!" ∧
      ∃ first second, (markPolls 3).value.1.map handedOn = [[first], [second], [first]] := by
  have hone : (markPolls 1).value.2.store.current.value = some "!" := by
    with_unfolding_all rfl
  have htwo : (markPolls 2).value.2.store.current.value = some "" := by
    with_unfolding_all rfl
  have hthree : (markPolls 3).value.1.map handedOn
      = [[⟨[("ID", .string "!")]⟩], [⟨[("ID", .string ")")]⟩], [⟨[("ID", .string "!")]⟩]] := by
    with_unfolding_all rfl
  exact ⟨still_marks, text_marks, distinct_marks, (finds_of_none rfl).2 hone,
    (finds_of_none rfl).2 htwo, by decide, _, _, hthree⟩

end Tidemark.Cycle
