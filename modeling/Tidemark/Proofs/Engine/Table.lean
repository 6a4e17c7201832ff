import Mathlib.Data.List.Pairwise
import Tidemark.Proofs.Engine.Ties

/-!
# Engines over versioned tables

In a plain table (`Plain`) the cells of a column are pairwise different, and a literal can hold
their texts.  Pages are read from such a table from below.  Once some rows are delivered, those not
delivered yet lie above them (`Progress`); a page takes the lowest of these (`page_of_evaluates`),
the greatest value of a page is that of its last row (`greatest_of_evaluates`), and rows that are
added above all others do not disturb what was delivered (`Progress.grow`).  So what is delivered is
at any time a beginning of the ascending list of all rows, up to the text of the last one (`UpTo`).
-/

namespace Tidemark.Engine

/-! ### Tables without ties -/

/-- The rows of a table without ties: every row has a text in the column that a literal can hold,
the cells are in order and pairwise different, and a cell exceeds the text of another exactly if it
is greater. -/
structure Plain (o : Collation) (column : String) (rows : List Row) : Prop where
  text : ∀ r ∈ rows, ∃ v, r.text? column = some v ∧ Query.sanitize v = v
  total : ∀ a ∈ rows, ∀ b ∈ rows, o.AtMost column a b ∨ o.AtMost column b a
  trans : ∀ a ∈ rows, ∀ b ∈ rows, ∀ c ∈ rows,
    o.AtMost column a b → o.AtMost column b c → o.AtMost column a c
  distinct : rows.Pairwise fun a b => ¬ (o.AtMost column a b ∧ o.AtMost column b a)
  exceeds : ∀ a ∈ rows, ∀ b ∈ rows, ∀ v, b.text? column = some v →
    (o.exceeds (a.cell column) v = true ↔ ¬ o.AtMost column a b)

namespace Plain

variable {o : Collation} {column : String} {rows : List Row}

/-- A plain table can be ranked. -/
lemma ranked (h : Plain o column rows) : Ranked o column rows where
  text r hr := by
    obtain ⟨v, hv, -⟩ := h.text r hr
    exact ⟨v, hv⟩
  total := h.total
  trans := h.trans
  exceeds := h.exceeds

/-- A row of a plain table has a cell. -/
lemma get?_eq (h : Plain o column rows) {r : Row} (hr : r ∈ rows) :
    r.get? column = some (r.cell column) :=
  h.ranked.get?_eq hr

/-- Different rows have different cells. -/
lemma antisymm (h : Plain o column rows) {a b : Row} (ha : a ∈ rows) (hb : b ∈ rows)
    (hab : o.AtMost column a b) (hba : o.AtMost column b a) : a = b := by
  have hsymm : Std.Symm fun a b : Row => ¬ (o.AtMost column a b ∧ o.AtMost column b a) :=
    ⟨fun _ _ hxy hyx => hxy hyx.symm⟩
  by_contra hne
  exact h.distinct.forall ha hb hne ⟨hab, hba⟩

/-- A row is at most itself. -/
lemma refl (h : Plain o column rows) {a : Row} (ha : a ∈ rows) : o.AtMost column a a :=
  h.ranked.refl ha

/-- Rows in ascending order are in strictly ascending order. -/
lemma pairwise_below (h : Plain o column rows) {xs ys : List Row} (hperm : rows.Perm (xs ++ ys))
    (hsorted : ys.Pairwise (o.AtMost column)) : ys.Pairwise (o.Below column) := by
  have hsymm : ∀ {a b : Row}, ¬ (o.AtMost column a b ∧ o.AtMost column b a) →
      ¬ (o.AtMost column b a ∧ o.AtMost column a b) :=
    fun hxy hyx => hxy hyx.symm
  have hdistinct := (hperm.pairwise_iff hsymm).1 h.distinct
  have hys := (List.pairwise_append.1 hdistinct).2.1
  refine (hsorted.and hys).imp ?_
  rintro a b ⟨hab, hne⟩
  exact ⟨hab, fun hba => hne ⟨hab, hba⟩⟩

/-- The rows of a plain table can be sorted. -/
lemma exists_sorted (h : Plain o column rows) {xs : List Row} (hxs : xs ⊆ rows) :
    ∃ ys : List Row, ys.Perm xs ∧ ys.Pairwise (o.AtMost column) := by
  -- only the rows of the table are known to be in order, so these are what is sorted
  let ordered := (xs.attachWith (· ∈ rows) fun _ hr => hxs hr).mergeSort
    fun a b => o.le (a.1.cell column) (b.1.cell column)
  have hsorted : ordered.Pairwise fun a b => o.AtMost column a.1 b.1 := by
    refine List.pairwise_mergeSort ?_ ?_ _
    · intro a b c hab hbc
      exact h.trans a.1 a.2 b.1 b.2 c.1 c.2 hab hbc
    · intro a b
      rw [Bool.or_eq_true]
      exact h.total a.1 a.2 b.1 b.2
  refine ⟨ordered.map Subtype.val, ?_, List.pairwise_map.2 hsorted⟩
  have hperm := (List.mergeSort_perm (xs.attachWith (· ∈ rows) fun _ hr => hxs hr)
    fun a b => o.le (a.1.cell column) (b.1.cell column)).map Subtype.val
  rwa [List.attachWith_map_subtype_val] at hperm

end Plain

/-! ### Progress through a table -/

/-- The text of the last of some rows. -/
def lastText (column : String) (rows : List Row) : Option String :=
  rows.getLast?.bind fun r => r.text? column

/-- Delivered rows ascend, and the rest of the table lies above them. -/
structure Progress (o : Collation) (column : String) (rows delivered rest : List Row) : Prop where
  perm : rows.Perm (delivered ++ rest)
  ascending : delivered.Pairwise (o.Below column)
  below : ∀ a ∈ delivered, ∀ b ∈ rest, o.Below column a b

namespace Progress

variable {o : Collation} {column : String} {rows delivered rest : List Row}

/-- Nothing is delivered at first. -/
lemma start (rows : List Row) : Progress o column rows [] rows :=
  ⟨.refl rows, .nil, by simp⟩

lemma mem_of_mem (h : Progress o column rows delivered rest) {r : Row} (hr : r ∈ delivered) :
    r ∈ rows :=
  h.perm.mem_iff.2 (List.mem_append_left rest hr)

lemma mem_of_mem_rest (h : Progress o column rows delivered rest) {r : Row} (hr : r ∈ rest) :
    r ∈ rows :=
  h.perm.mem_iff.2 (List.mem_append_right delivered hr)

/-- The last delivered row is the greatest one. -/
lemma atMost_last (h : Progress o column rows delivered rest) (hplain : Plain o column rows)
    {l : Row} (hl : delivered.getLast? = some l) {r : Row} (hr : r ∈ delivered) :
    o.AtMost column r l := by
  obtain ⟨front, rfl⟩ := List.getLast?_eq_some_iff.1 hl
  rcases List.mem_append.1 hr with hfront | hlast
  · exact ((List.pairwise_append.1 h.ascending).2.2 r hfront l (List.mem_singleton_self l)).1
  · rw [List.mem_singleton.1 hlast]
    exact hplain.refl (h.mem_of_mem (by simp))

/-- What exceeds the last delivered row is what is not delivered yet. -/
lemma filter_perm (h : Progress o column rows delivered rest) (hplain : Plain o column rows)
    {l : Row} (hl : delivered.getLast? = some l) {v : String} (hv : l.text? column = some v) :
    (rows.filter fun r => (r.get? column).any fun cell => o.exceeds cell v).Perm rest := by
  have hlast : l ∈ rows := h.mem_of_mem (List.mem_of_getLast? hl)
  have htest : ∀ r ∈ rows, ((r.get? column).any fun cell => o.exceeds cell v)
      = o.exceeds (r.cell column) v := by
    intro r hr
    rw [hplain.get?_eq hr, Option.any_some]
  have hdelivered : delivered.filter
      (fun r => (r.get? column).any fun cell => o.exceeds cell v) = [] := by
    rw [List.filter_eq_nil_iff]
    intro r hr
    rw [htest r (h.mem_of_mem hr), hplain.exceeds r (h.mem_of_mem hr) l hlast v hv, not_not]
    exact h.atMost_last hplain hl hr
  have hrest : rest.filter
      (fun r => (r.get? column).any fun cell => o.exceeds cell v) = rest := by
    rw [List.filter_eq_self]
    intro r hr
    rw [htest r (h.mem_of_mem_rest hr), hplain.exceeds r (h.mem_of_mem_rest hr) l hlast v hv]
    exact (h.below l (List.mem_of_getLast? hl) r hr).2
  have hperm := h.perm.filter fun r => (r.get? column).any fun cell => o.exceeds cell v
  rwa [List.filter_append, hdelivered, hrest, List.nil_append] at hperm

/-- Rows that are added above all others do not disturb the progress. -/
lemma grow (h : Progress o column rows delivered rest) {rows' added : List Row}
    (hperm : rows'.Perm (rows ++ added))
    (habove : ∀ a ∈ rows, ∀ b ∈ added, o.Below column a b) :
    Progress o column rows' delivered (rest ++ added) := by
  refine ⟨?_, h.ascending, ?_⟩
  · rw [← List.append_assoc]
    exact hperm.trans (h.perm.append_right added)
  · intro a ha b hb
    rcases List.mem_append.1 hb with hb | hb
    · exact h.below a ha b hb
    · exact habove a (h.mem_of_mem ha) b hb

end Progress

/-- The lowest rows of a table, up to a watermark: they begin the ascending list of all rows, none
of them stands there twice, they are the rows whose cells do not exceed the watermark, and the
watermark is the text of the last of them. -/
structure UpTo (o : Collation) (column : String) (rows : List Row) (watermark : Option String)
    (delivered : List Row) : Prop where
  initial : ∃ later, rows.Perm (delivered ++ later) ∧
    (delivered ++ later).Pairwise (o.Below column)
  nodup : delivered.Nodup
  mem_iff : ∀ r, r ∈ delivered ↔
    r ∈ rows ∧ ∃ v, watermark = some v ∧ o.exceeds (r.cell column) v = false
  last : watermark = lastText column delivered

/-- What is delivered are the lowest rows, up to the last one delivered. -/
lemma Progress.upTo {o : Collation} {column : String} {rows delivered rest : List Row}
    (h : Progress o column rows delivered rest) (hplain : Plain o column rows) :
    UpTo o column rows (lastText column delivered) delivered := by
  have hrest : rest ⊆ rows := fun r hr => h.mem_of_mem_rest hr
  obtain ⟨later, hlater, hsorted⟩ := hplain.exists_sorted hrest
  have hperm : rows.Perm (delivered ++ later) := h.perm.trans (hlater.symm.append_left delivered)
  have hbelow : (delivered ++ later).Pairwise (o.Below column) := by
    refine List.pairwise_append.2 ⟨h.ascending, hplain.pairwise_below hperm hsorted, ?_⟩
    intro a ha b hb
    exact h.below a ha b (hlater.mem_iff.1 hb)
  refine ⟨⟨later, hperm, hbelow⟩, ?_, ?_, rfl⟩
  · refine h.ascending.imp ?_
    rintro a b ⟨hab, hba⟩ rfl
    exact hba hab
  · intro r
    constructor
    · intro hr
      obtain ⟨l, hl⟩ : ∃ l, delivered.getLast? = some l :=
        Option.ne_none_iff_exists'.1 fun hnone => by simp [List.getLast?_eq_none_iff.1 hnone] at hr
      have hlast : l ∈ rows := h.mem_of_mem (List.mem_of_getLast? hl)
      obtain ⟨v, hv, -⟩ := hplain.text l hlast
      refine ⟨h.mem_of_mem hr, v, ?_, ?_⟩
      · rw [lastText, hl, Option.bind_some, hv]
      · rw [← Bool.not_eq_true, hplain.exceeds r (h.mem_of_mem hr) l hlast v hv, not_not]
        exact h.atMost_last hplain hl hr
    · rintro ⟨hr, v, hwatermark, hexceeds⟩
      obtain ⟨l, hl, hv⟩ := Option.bind_eq_some_iff.1 hwatermark
      have hdelivered : l ∈ delivered := List.mem_of_getLast? hl
      by_contra hnot
      have hrest : r ∈ rest := (List.mem_append.1 (h.perm.mem_iff.1 hr)).resolve_left hnot
      have habove := (h.below l hdelivered r hrest).2
      rw [← hplain.exceeds r hr l (h.mem_of_mem hdelivered) v hv, hexceeds] at habove
      cases habove

/-! ### Pages -/

section Pages

variable {o : Collation} {column : String} {rows delivered rest : List Row}

/-- A page of the rows that are not delivered yet: in ascending order, the first of them. -/
def NextPage (o : Collation) (column : String) (limit : Option UInt64)
    (rows delivered page : List Row) : Prop :=
  ∃ later, rows.Perm (delivered ++ later) ∧ (delivered ++ later).Pairwise (o.Below column) ∧
    page = cutOff limit later

/-- The rows above the last delivered one are those not delivered yet. -/
lemma Progress.above_perm (h : Progress o column rows delivered rest)
    (hplain : Plain o column rows) :
    (above o column (lastText column delivered) rows).Perm rest := by
  cases hlast : delivered.getLast? with
  | none =>
    have hnil : delivered = [] := List.getLast?_eq_none_iff.1 hlast
    have hrows := h.perm
    rw [hnil, List.nil_append] at hrows
    rw [lastText, hlast]
    exact hrows
  | some l =>
    obtain ⟨v, hv, -⟩ := hplain.text l (h.mem_of_mem (List.mem_of_getLast? hlast))
    rw [lastText, hlast, Option.bind_some, hv]
    exact h.filter_perm hplain hlast hv

/-- **A page takes the lowest rows that are not delivered yet.** -/
theorem page_of_evaluates (hplain : Plain o column rows)
    (h : Progress o column rows delivered rest) {limit : Option UInt64} {page : List Row}
    (hpage : Evaluates o (pageSteps column (lastText column delivered) limit) rows page) :
    NextPage o column limit rows delivered page := by
  obtain ⟨later, habove, hsorted, hcut⟩ := evaluates_pageSteps_iff.1 hpage
  have hperm : later.Perm rest := habove.trans (h.above_perm hplain)
  have hrows : rows.Perm (delivered ++ later) := h.perm.trans (hperm.symm.append_left delivered)
  have hbelow : later.Pairwise (o.Below column) := hplain.pairwise_below hrows hsorted
  refine ⟨later, hrows, List.pairwise_append.2 ⟨h.ascending, hbelow, ?_⟩, hcut⟩
  intro a ha b hb
  exact h.below a ha b (hperm.mem_iff.1 hb)

/-- After a page is delivered, the rest lies above it. -/
lemma NextPage.progress {limit : Option UInt64} {page : List Row}
    (h : NextPage o column limit rows delivered page) :
    ∃ rest, Progress o column rows (delivered ++ page) rest := by
  obtain ⟨later, hperm, hsorted, rfl⟩ := h
  obtain ⟨rest, hrest, -⟩ := exists_append_cutOff limit later
  rw [hrest, ← List.append_assoc] at hperm hsorted
  obtain ⟨hfront, -, hbelow⟩ := List.pairwise_append.1 hsorted
  exact ⟨rest, hperm, hfront, hbelow⟩

/-- A page without rows leaves nothing undelivered, unless nothing may be read at all. -/
lemma NextPage.perm_of_nil {limit : Option UInt64} (hlimit : limit ≠ some 0)
    (h : NextPage o column limit rows delivered []) : rows.Perm delivered := by
  obtain ⟨later, hperm, -, hcut⟩ := h
  rwa [eq_nil_of_cutOff hlimit hcut.symm, List.append_nil] at hperm

/-- **The greatest value of a page is that of its last row.** -/
theorem greatest_of_evaluates (hplain : Plain o column rows) {previous : Option String}
    {limit : Option UInt64} {field : String} {page out : List Row} {l : Row}
    (hpage : Evaluates o (pageSteps column previous limit) rows page)
    (hl : page.getLast? = some l)
    (hout : Evaluates o (pageSteps column previous limit ++ greatestSteps field column) rows out) :
    out = [⟨[(field, l.cell column)]⟩] := by
  obtain ⟨g, hg, rfl, htied⟩ := tied_greatest_of_evaluates hplain.ranked hpage hl hout
  have hlast : l ∈ rows := subset_of_evaluates hpage (List.mem_of_getLast? hl)
  rw [hplain.antisymm hlast hg htied.1 htied.2]

end Pages

/-! ### Versions -/

/-- A table that keeps its earlier versions, plain in the newest one. -/
structure Table (o : Collation) (column : String) where
  version : PointInTime → Option (List Row)
  newest : PointInTime
  rows : List Row
  version_newest : version newest = some rows
  plain : Plain o column rows

namespace Table

variable {o : Collation} {column : String}

/-- A table becomes another by writers that add rows above all rows present: every version stays
what it is, and the rows of the newest one are still there. -/
structure Grows (t t' : Table o column) : Prop where
  version : ∀ point rows, t.version point = some rows → t'.version point = some rows
  rows : ∃ added, t'.rows.Perm (t.rows ++ added) ∧
    ∀ a ∈ t.rows, ∀ b ∈ added, o.Below column a b

lemma Grows.refl (t : Table o column) : t.Grows t :=
  ⟨fun _ _ h => h, [], by simp, by simp⟩

lemma Grows.trans {t t' t'' : Table o column} (h : t.Grows t') (h' : t'.Grows t'') :
    t.Grows t'' := by
  obtain ⟨added, hperm, habove⟩ := h.rows
  obtain ⟨added', hperm', habove'⟩ := h'.rows
  refine ⟨fun point rows hrows => h'.version point rows (h.version point rows hrows),
    added ++ added', ?_, ?_⟩
  · rw [← List.append_assoc]
    exact hperm'.trans (hperm.append_right added')
  · intro a ha b hb
    rcases List.mem_append.1 hb with hb | hb
    · exact habove a ha b hb
    · exact habove' a (hperm.mem_iff.2 (List.mem_append_left added ha)) b hb

/-- Progress through a table is kept while the table grows. -/
lemma Grows.progress {t t' : Table o column} (h : t.Grows t') {delivered : List Row}
    (hprogress : ∃ rest, Progress o column t.rows delivered rest) :
    ∃ rest, Progress o column t'.rows delivered rest := by
  obtain ⟨rest, hrest⟩ := hprogress
  obtain ⟨added, hperm, habove⟩ := h.rows
  exact ⟨rest ++ added, hrest.grow hperm habove⟩

/-- The answer to a plan with some steps: without a point in time the newest version is read and
named, and at a point in time the version of that point is read. -/
def Answers (t : Table o column) (steps : List Query.Step) (point : Option PointInTime)
    (answer : QueryResult) : Prop :=
  match point with
  | none => answer.token = t.newest ∧ Evaluates o steps t.rows answer.rows
  | some p => ∀ rows, t.version p = some rows →
    answer.token = p ∧ Evaluates o steps rows answer.rows

end Table

end Tidemark.Engine
