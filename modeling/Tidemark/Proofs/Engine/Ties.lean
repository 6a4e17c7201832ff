import Tidemark.Proofs.Engine.Evaluation

/-!
# Pages of a table with ties

Several rows of a ranked table may have the same cell, and an engine may sort them in either order.
So a page that is evaluated twice may consist of different rows.  But its last row is tied with the
last row of the other (`tied_last_of_evaluates`): of two ascending lists of the same rows, elements
at the same place are tied, because the rows that are at most one of them are counted alike in both
(`atMost_of_perm`).  The greatest value of a page is therefore the cell of its last row, up to a tie
(`tied_greatest_of_evaluates`, `Batch`).

A page that is cut off at its limit may end amid rows that are tied.  The next page starts above all
of these, so those that are left are passed over, and no others (`Batch.exists_passed`).
-/

namespace Tidemark.Engine

open scoped List

variable {o : Collation} {column : String} {rows : List Row}

namespace Collation

lemma Tied.symm {a b : Row} (h : o.Tied column a b) : o.Tied column b a :=
  ⟨h.2, h.1⟩

end Collation

namespace Ranked

lemma trans_tied (h : Ranked o column rows) {a b c : Row} (ha : a ∈ rows) (hb : b ∈ rows)
    (hc : c ∈ rows) (hab : o.Tied column a b) (hbc : o.Tied column b c) : o.Tied column a c :=
  ⟨h.trans a ha b hb c hc hab.1 hbc.1, h.trans c hc b hb a ha hbc.2 hab.2⟩

/-- A row passes the test against the text of a row if it is not at most this row. -/
lemma any_exceeds_iff (h : Ranked o column rows) {a b : Row} (ha : a ∈ rows) (hb : b ∈ rows)
    {v : String} (hv : b.text? column = some v) :
    ((a.get? column).any fun cell => o.exceeds cell v) = true ↔ ¬ o.AtMost column a b := by
  rw [h.get?_eq ha, Option.any_some, h.exceeds a ha b hb v hv]

/-! ### Sorting twice -/

/-- Of two ascending lists of the same rows, an element of one is at most the element of the other
at the same place. -/
lemma atMost_of_perm (h : Ranked o column rows) {front front' later later' : List Row} {l l' : Row}
    (hrows : front ++ l :: later ⊆ rows)
    (hperm : (front ++ l :: later).Perm (front' ++ l' :: later'))
    (hlength : front.length = front'.length)
    (hsorted : (front ++ l :: later).Pairwise (o.AtMost column))
    (hsorted' : (front' ++ l' :: later').Pairwise (o.AtMost column)) : o.AtMost column l l' := by
  have hmem : ∀ r ∈ front' ++ l' :: later', r ∈ rows := fun r hr => hrows (hperm.mem_iff.2 hr)
  have hl : l ∈ rows := hrows (by simp)
  have hl' : l' ∈ rows := hmem l' (by simp)
  by_contra hnot
  -- the rows that are at most `l'` are more than the front of one list, and fewer than that in the
  -- other
  let p : Row → Bool := fun r => o.le (r.cell column) (l'.cell column)
  have hmany : front'.length + 1 ≤ (front' ++ l' :: later').countP p := by
    have hfront : front'.countP p = front'.length := by
      rw [List.countP_eq_length]
      intro r hr
      exact (List.pairwise_append.1 hsorted').2.2 r hr l' List.mem_cons_self
    have hself : p l' = true := h.refl hl'
    rw [List.countP_append, List.countP_cons, hfront, if_pos hself]
    omega
  have hfew : (front ++ l :: later).countP p ≤ front.length := by
    have hlater : (l :: later).countP p = 0 := by
      rw [List.countP_eq_zero]
      intro r hr hp
      refine hnot ?_
      rcases List.mem_cons.1 hr with rfl | hr
      · exact hp
      · have hlr : o.AtMost column l r :=
          List.rel_of_pairwise_cons (List.pairwise_append.1 hsorted).2.1 hr
        exact h.trans l hl r (hrows (by simp [hr])) l' hl' hlr hp
    rw [List.countP_append, hlater, Nat.add_zero]
    exact List.countP_le_length
  rw [hperm.countP_eq] at hfew
  omega

/-- Of two ascending lists of the same rows, elements at the same place are tied. -/
lemma tied_of_perm (h : Ranked o column rows) {front front' later later' : List Row} {l l' : Row}
    (hrows : front ++ l :: later ⊆ rows)
    (hperm : (front ++ l :: later).Perm (front' ++ l' :: later'))
    (hlength : front.length = front'.length)
    (hsorted : (front ++ l :: later).Pairwise (o.AtMost column))
    (hsorted' : (front' ++ l' :: later').Pairwise (o.AtMost column)) : o.Tied column l l' :=
  ⟨h.atMost_of_perm hrows hperm hlength hsorted hsorted',
    h.atMost_of_perm (fun _ hr => hrows (hperm.mem_iff.2 hr)) hperm.symm hlength.symm hsorted'
      hsorted⟩

end Ranked

/-! ### The last row of a page -/

/-- How many rows are kept depends on how many there are. -/
lemma length_cutOff (limit : Option UInt64) {xs ys : List Row} (h : xs.length = ys.length) :
    (cutOff limit xs).length = (cutOff limit ys).length := by
  cases limit with
  | none => exact h
  | some n => rw [cutOff, cutOff, List.length_take, List.length_take, h]

lemma above_subset (o : Collation) (column : String) (previous : Option String)
    (rows : List Row) : above o column previous rows ⊆ rows := by
  cases previous with
  | none => exact List.Subset.refl rows
  | some v => exact List.filter_subset_self rows

section Pages

variable {previous : Option String} {limit : Option UInt64} {page : List Row}

/-- A page and what comes after it are the rows above a value, in ascending order; something comes
after it only if it is cut off at the limit. -/
lemma exists_append_of_evaluates (hpage : Evaluates o (pageSteps column previous limit) rows page) :
    ∃ later : List Row, (page ++ later).Perm (above o column previous rows) ∧
      (page ++ later).Pairwise (o.AtMost column) ∧
      (later ≠ [] → ∃ n, limit = some n ∧ n.toNat = page.length) := by
  obtain ⟨sorted, hperm, hsorted, rfl⟩ := evaluates_pageSteps_iff.1 hpage
  obtain ⟨later, hlater, hlimit⟩ := exists_append_cutOff limit sorted
  refine ⟨later, ?_, ?_, hlimit⟩
  · rwa [← hlater]
  · rwa [← hlater]

/-- A page consists of rows above the value. -/
lemma subset_above_of_evaluates (hpage : Evaluates o (pageSteps column previous limit) rows page) :
    page ⊆ above o column previous rows := by
  obtain ⟨later, hperm, -, -⟩ := exists_append_of_evaluates hpage
  intro r hr
  exact hperm.mem_iff.1 (List.mem_append_left later hr)

/-- A page consists of rows of the table. -/
lemma subset_of_evaluates (hpage : Evaluates o (pageSteps column previous limit) rows page) :
    page ⊆ rows := fun _ hr =>
  above_subset o column previous rows (subset_above_of_evaluates hpage hr)

/-- A page that is evaluated twice has as many rows both times. -/
lemma length_eq_of_evaluates {page' : List Row}
    (hpage : Evaluates o (pageSteps column previous limit) rows page)
    (hpage' : Evaluates o (pageSteps column previous limit) rows page') :
    page.length = page'.length := by
  obtain ⟨sorted, hperm, -, rfl⟩ := evaluates_pageSteps_iff.1 hpage
  obtain ⟨sorted', hperm', -, rfl⟩ := evaluates_pageSteps_iff.1 hpage'
  exact length_cutOff limit (hperm.trans hperm'.symm).length_eq

/-- The last row of a page is a greatest one. -/
lemma atMost_last_of_evaluates (h : Ranked o column rows)
    (hpage : Evaluates o (pageSteps column previous limit) rows page) {l : Row}
    (hl : page.getLast? = some l) {r : Row} (hr : r ∈ page) : o.AtMost column r l := by
  obtain ⟨later, hperm, hsorted, -⟩ := exists_append_of_evaluates hpage
  have hascending := (List.pairwise_append.1 hsorted).1
  have hlast : l ∈ rows := subset_of_evaluates hpage (List.mem_of_getLast? hl)
  obtain ⟨front, rfl⟩ := List.getLast?_eq_some_iff.1 hl
  rcases List.mem_append.1 hr with hfront | hsame
  · exact (List.pairwise_append.1 hascending).2.2 r hfront l (List.mem_singleton_self l)
  · rw [List.mem_singleton.1 hsame]
    exact h.refl hlast

/-- A page without rows leaves no row above the value, unless nothing may be read at all. -/
lemma above_eq_nil_of_evaluates (hlimit : limit ≠ some 0)
    (hpage : Evaluates o (pageSteps column previous limit) rows []) :
    above o column previous rows = [] := by
  obtain ⟨sorted, hperm, -, hcut⟩ := evaluates_pageSteps_iff.1 hpage
  rw [eq_nil_of_cutOff hlimit hcut.symm] at hperm
  exact hperm.symm.eq_nil

/-- The last rows of a page that is evaluated twice are tied. -/
lemma tied_last_of_evaluates (h : Ranked o column rows) {page' : List Row}
    (hpage : Evaluates o (pageSteps column previous limit) rows page)
    (hpage' : Evaluates o (pageSteps column previous limit) rows page') {l l' : Row}
    (hl : page.getLast? = some l) (hl' : page'.getLast? = some l') : o.Tied column l l' := by
  have hlength : page.length = page'.length := length_eq_of_evaluates hpage hpage'
  obtain ⟨later, hperm, hsorted, -⟩ := exists_append_of_evaluates hpage
  obtain ⟨later', hperm', hsorted', -⟩ := exists_append_of_evaluates hpage'
  obtain ⟨front, rfl⟩ := List.getLast?_eq_some_iff.1 hl
  obtain ⟨front', rfl⟩ := List.getLast?_eq_some_iff.1 hl'
  rw [List.append_assoc, List.singleton_append] at hperm hsorted hperm' hsorted'
  refine h.tied_of_perm ?_ (hperm.trans hperm'.symm) (by simpa using hlength) hsorted hsorted'
  intro r hr
  exact above_subset o column previous rows (hperm.mem_iff.1 hr)

/-- The steps that take the greatest value of some rows take the cell of one that is greatest. -/
lemma exists_greatest (h : Ranked o column rows) (hpage : page ⊆ rows) (hne : page ≠ [])
    {field : String} {out : List Row} (hout : Evaluates o (greatestSteps field column) page out) :
    ∃ g ∈ page, out = [⟨[(field, g.cell column)]⟩] ∧ ∀ r ∈ page, o.AtMost column r g := by
  obtain ⟨sorted, ⟨hperm, hsorted⟩, first, hfirst, named, hnamed, hout⟩ := hout
  obtain ⟨g, tail, rfl⟩ : ∃ g tail, sorted = g :: tail := by
    refine List.exists_cons_of_ne_nil ?_
    rintro rfl
    exact hne hperm.symm.eq_nil
  have hg : g ∈ page := hperm.mem_iff.1 List.mem_cons_self
  refine ⟨g, hg, ?_, ?_⟩
  · rw [show out = named from hout, show named = _ from hnamed, show first = _ from hfirst]
    rfl
  · intro r hr
    rcases List.mem_cons.1 (hperm.mem_iff.2 hr) with rfl | htail
    · exact h.refl (hpage hg)
    · exact List.rel_of_pairwise_cons hsorted htail

/-- **The greatest value of a page is that of its last row**, up to a tie. -/
theorem tied_greatest_of_evaluates (h : Ranked o column rows) {field : String} {out : List Row}
    {l : Row} (hpage : Evaluates o (pageSteps column previous limit) rows page)
    (hl : page.getLast? = some l)
    (hout : Evaluates o (pageSteps column previous limit ++ greatestSteps field column) rows out) :
    ∃ g ∈ rows, out = [⟨[(field, g.cell column)]⟩] ∧ o.Tied column l g := by
  obtain ⟨page', hpage', hout⟩ := evaluates_append.1 hout
  have hrows : page' ⊆ rows := subset_of_evaluates hpage'
  have hne' : page' ≠ [] := by
    have hpos := List.length_pos_of_mem (List.mem_of_getLast? hl)
    rw [length_eq_of_evaluates hpage hpage'] at hpos
    exact List.ne_nil_of_length_pos hpos
  obtain ⟨g, hg, rfl, hgreatest⟩ := exists_greatest h hrows hne' hout
  obtain ⟨l', hl'⟩ : ∃ l', page'.getLast? = some l' := ⟨_, List.getLast?_eq_some_getLast hne'⟩
  have hl'mem : l' ∈ page' := List.mem_of_getLast? hl'
  have hlast : l ∈ rows := subset_of_evaluates hpage (List.mem_of_getLast? hl)
  have hsame : o.Tied column l' g :=
    ⟨hgreatest l' hl'mem, atMost_last_of_evaluates h hpage' hl' hg⟩
  exact ⟨g, hrows hg, rfl, h.trans_tied hlast (hrows hl'mem) (hrows hg)
    (tied_last_of_evaluates h hpage hpage' hl hl') hsame⟩

/-- A page above a value, and the text of its greatest value: that of a row tied with the last row
of the page. -/
structure Batch (o : Collation) (column : String) (previous : Option String) (limit : Option UInt64)
    (rows page : List Row) (greatest : String) : Prop where
  evaluates : Evaluates o (pageSteps column previous limit) rows page
  last : ∃ l g : Row, page.getLast? = some l ∧ g ∈ rows ∧ g.text? column = some greatest ∧
    o.Tied column l g

/-- A page with rows is a batch, and its greatest value is the one that the engine gives. -/
theorem batch_of_evaluates (h : Ranked o column rows) {field : String} {out : List Row}
    (hpage : Evaluates o (pageSteps column previous limit) rows page) (hne : page ≠ [])
    (hout : Evaluates o (pageSteps column previous limit ++ greatestSteps field column) rows out) :
    ∃ (g : Row) (v : String), out = [⟨[(field, g.cell column)]⟩] ∧ g.text? column = some v ∧
      Batch o column previous limit rows page v := by
  obtain ⟨l, hl⟩ : ∃ l, page.getLast? = some l := ⟨_, List.getLast?_eq_some_getLast hne⟩
  obtain ⟨g, hg, hcell, htied⟩ := tied_greatest_of_evaluates h hpage hl hout
  obtain ⟨v, hv⟩ := h.text g hg
  exact ⟨g, v, hcell, hv, hpage, l, g, hl, hg, hv, htied⟩

/-! ### Rows passed over -/

/-- The rows above a row of the table are those that are not at most it. -/
lemma mem_above_iff (h : Ranked o column rows) {b : Row} (hb : b ∈ rows) {u : String}
    (hu : b.text? column = some u) {r : Row} :
    r ∈ above o column (some u) rows ↔ r ∈ rows ∧ ¬ o.AtMost column r b := by
  rw [above, List.mem_filter]
  exact and_congr_right fun hr => h.any_exceeds_iff hr hb hu

/-- What lies above the last row of a page is found among the rows that the page was taken from. -/
lemma above_above (h : Ranked o column rows)
    (hprevious : ∀ u ∈ previous, ∃ b ∈ rows, b.text? column = some u) {l g : Row}
    (hl : l ∈ above o column previous rows) (hg : g ∈ rows) (hlg : o.AtMost column l g)
    {v : String} (hv : g.text? column = some v) :
    above o column (some v) (above o column previous rows) = above o column (some v) rows := by
  cases previous with
  | none => rfl
  | some u =>
    obtain ⟨b, hb, hu⟩ := hprevious u rfl
    obtain ⟨hlrows, hnot⟩ := (mem_above_iff h hb hu).1 hl
    have hbl : o.AtMost column b l := (h.total b hb l hlrows).resolve_right hnot
    have hbg : o.AtMost column b g := h.trans b hb l hlrows g hg hbl hlg
    rw [above, above, List.filter_filter]
    refine List.filter_congr fun r hr => ?_
    -- what exceeds the greater row exceeds the lesser one
    rw [Bool.eq_iff_iff, Bool.and_eq_true, h.any_exceeds_iff hr hg hv, h.any_exceeds_iff hr hb hu]
    constructor
    · exact And.left
    · intro hrg
      exact ⟨hrg, fun hrb => hrg (h.trans r hr b hb g hg hrb hbg)⟩

/-- **What a page passes over.**  The rows that a page was taken from are those of the page, those
above its greatest value, and some that are passed over.  These are tied with the last row of the
page, and there are such rows only if the page is as long as the limit. -/
theorem Batch.exists_passed (h : Ranked o column rows)
    (hprevious : ∀ u ∈ previous, ∃ b ∈ rows, b.text? column = some u) {v : String}
    (hbatch : Batch o column previous limit rows page v) :
    ∃ passed : List Row,
      (above o column previous rows).Perm (page ++ (passed ++ above o column (some v) rows)) ∧
      ∀ x ∈ passed, (∃ l, page.getLast? = some l ∧ o.Tied column x l) ∧
        ∃ n, limit = some n ∧ n.toNat = page.length := by
  obtain ⟨hpage, l, g, hl, hg, hv, htied⟩ := hbatch
  obtain ⟨later, hperm, hsorted, hcut⟩ := exists_append_of_evaluates hpage
  have hsubset : ∀ r ∈ page ++ later, r ∈ rows := fun r hr =>
    above_subset o column previous rows (hperm.mem_iff.1 hr)
  have hlmem : l ∈ page := List.mem_of_getLast? hl
  have hlrows : l ∈ rows := hsubset l (List.mem_append_left later hlmem)
  let test : Row → Bool := fun r => (r.get? column).any fun cell => o.exceeds cell v
  have hpageNil : page.filter test = [] := by
    rw [List.filter_eq_nil_iff]
    intro r hr
    have hrrows : r ∈ rows := hsubset r (List.mem_append_left later hr)
    have hrl : o.AtMost column r l := atMost_last_of_evaluates h hpage hl hr
    rw [h.any_exceeds_iff hrrows hg hv, not_not]
    exact h.trans r hrrows l hlrows g hg hrl htied.1
  have habove : (later.filter test).Perm (above o column (some v) rows) := by
    have hfilter := hperm.filter test
    rw [List.filter_append, hpageNil, List.nil_append] at hfilter
    have hnarrow := above_above h hprevious (subset_above_of_evaluates hpage hlmem) hg htied.1 hv
    rw [← hnarrow]
    exact hfilter
  refine ⟨later.filter fun r => !test r, ?_, ?_⟩
  · calc above o column previous rows
        _ ~ page ++ later := hperm.symm
        _ ~ page ++ (later.filter test ++ later.filter fun r => !test r) :=
          (List.filter_append_perm test later).symm.append_left page
        _ ~ page ++ ((later.filter fun r => !test r) ++ later.filter test) :=
          List.perm_append_comm.append_left page
        _ ~ page ++ ((later.filter fun r => !test r) ++ above o column (some v) rows) :=
          (habove.append_left _).append_left page
  · intro x hx
    obtain ⟨hxlater, hxtest⟩ := List.mem_filter.1 hx
    have hxrows : x ∈ rows := hsubset x (List.mem_append_right page hxlater)
    have hxg : o.AtMost column x g := by
      by_contra hnot
      have htest : test x = true := (h.any_exceeds_iff hxrows hg hv).2 hnot
      rw [htest] at hxtest
      cases hxtest
    have hlx : o.AtMost column l x := (List.pairwise_append.1 hsorted).2.2 l hlmem x hxlater
    exact ⟨⟨l, hl, h.trans x hxrows g hg l hlrows hxg htied.2, hlx⟩,
      hcut (List.ne_nil_of_mem hxlater)⟩

end Pages

end Tidemark.Engine
