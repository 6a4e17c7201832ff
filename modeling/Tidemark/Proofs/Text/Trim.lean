import Mathlib.Data.List.DropRight
import Tidemark.Text.Blank

/-!
# What trimming leaves

The blanks are the characters with the Unicode property `White_Space` (`isBlank_iff`).  Trimming
takes blanks off both ends of a text and nothing else (`exists_trim`), and what it leaves has no
blank at either end (`tight_trim`).  These two facts determine it (`trim_eq_iff`), so that a text is
read the same with any blanks around it.  In the same way the trimmed end of a text is determined by
the blanks that are taken off and the character before them (`endTrimmed_iff`).
-/

namespace Tidemark.Text

/-- A character has the Unicode property `White_Space`: it is the tab, an end of a line or a page,
or one of the spaces. -/
def IsWhiteSpace (c : Char) : Prop :=
  (0x09 ≤ c.toNat ∧ c.toNat ≤ 0x0D) ∨ c.toNat = 0x20 ∨ c.toNat = 0x85 ∨ c.toNat = 0xA0 ∨
    c.toNat = 0x1680 ∨ (0x2000 ≤ c.toNat ∧ c.toNat ≤ 0x200A) ∨ c.toNat = 0x2028 ∨
    c.toNat = 0x2029 ∨ c.toNat = 0x202F ∨ c.toNat = 0x205F ∨ c.toNat = 0x3000

/-- The blanks are the white space. -/
lemma isBlank_iff {c : Char} : isBlank c = true ↔ IsWhiteSpace c := by
  simp only [isBlank, blankRanges, IsWhiteSpace, List.any_cons, List.any_nil, Bool.or_false,
    Bool.or_eq_true, Bool.and_eq_true, decide_eq_true_eq]
  omega

lemma isBlank_eq_false_iff {c : Char} : isBlank c = false ↔ ¬ IsWhiteSpace c := by
  rw [← isBlank_iff, Bool.not_eq_true]

instance : DecidablePred IsWhiteSpace := fun _ =>
  decidable_of_iff _ isBlank_iff

/-- A text holds nothing but blanks. -/
def AllBlank (cs : List Char) : Prop :=
  ∀ c ∈ cs, IsWhiteSpace c

/-- Neither the first nor the last character of a text is blank. -/
structure Tight (cs : List Char) : Prop where
  head : ∀ c ∈ cs.head?, ¬ IsWhiteSpace c
  last : ∀ c ∈ cs.getLast?, ¬ IsWhiteSpace c

lemma allBlank_iff {cs : List Char} : AllBlank cs ↔ ∀ c ∈ cs, isBlank c = true :=
  forall₂_congr fun _ _ => isBlank_iff.symm

lemma isBlankText_iff {s : String} : isBlankText s = true ↔ AllBlank s.toList := by
  rw [allBlank_iff, isBlankText, List.all_eq_true]

instance : DecidablePred AllBlank := fun _ =>
  decidable_of_iff _ (List.all_eq_true.trans allBlank_iff.symm)

instance : DecidablePred Tight := fun cs =>
  decidable_of_iff ((cs.head?.all fun c => !isBlank c) = true ∧
      (cs.getLast?.all fun c => !isBlank c) = true) <| by
    simp only [Option.all_eq_true, Bool.not_eq_true', isBlank_eq_false_iff]
    exact ⟨fun h => ⟨h.1, h.2⟩, fun h => ⟨h.head, h.last⟩⟩

/-- A text without blanks is blank at neither end. -/
lemma tight_of_forall_not_blank {cs : List Char} (h : ∀ c ∈ cs, isBlank c = false) : Tight cs :=
  ⟨fun c hc => isBlank_eq_false_iff.1 (h c (List.mem_of_mem_head? hc)),
    fun c hc => isBlank_eq_false_iff.1 (h c (List.mem_of_mem_getLast? hc))⟩

/-- A decimal digit is not blank. -/
lemma isBlank_of_isDigit {c : Char} (h : c.isDigit = true) : isBlank c = false := by
  simp only [Char.isDigit, Bool.and_eq_true, decide_eq_true_eq] at h
  have hlow : 48 ≤ c.toNat := h.1
  have hhigh : c.toNat ≤ 57 := h.2
  rw [isBlank_eq_false_iff, IsWhiteSpace]
  omega

/-- Trimming the end takes characters off from the right. -/
lemma trimEnd_eq_rdropWhile (cs : List Char) : trimEnd cs = cs.rdropWhile isBlank :=
  rfl

/-- The last character that is left is not blank. -/
lemma not_isWhiteSpace_getLast?_trimEnd {cs : List Char} {c : Char}
    (hc : c ∈ (trimEnd cs).getLast?) : ¬ IsWhiteSpace c := by
  obtain ⟨hne, rfl⟩ := List.mem_getLast?_eq_getLast hc
  rw [← isBlank_iff]
  exact List.rdropWhile_last_not isBlank cs hne

/-- A text whose last character is not blank keeps its end. -/
lemma trimEnd_eq_self {cs : List Char} (h : ∀ c ∈ cs.getLast?, ¬ IsWhiteSpace c) :
    trimEnd cs = cs := by
  rw [trimEnd_eq_rdropWhile, List.rdropWhile_eq_self_iff]
  intro hne
  rw [isBlank_iff]
  exact h _ (List.getLast?_eq_some_getLast hne)

/-- What is taken off is blank. -/
lemma allBlank_rtakeWhile (cs : List Char) : AllBlank (cs.rtakeWhile isBlank) :=
  fun _ hc => isBlank_iff.1 (List.mem_rtakeWhile_imp hc)

/-- What trimming leaves is blank at neither end. -/
lemma tight_trim (cs : List Char) : Tight (trim cs) := by
  constructor
  · intro c hc
    -- the first character that is left was there before the end was trimmed
    obtain ⟨ds, hds⟩ := List.rdropWhile_prefix isBlank (trimStart cs)
    have hfirst : c ∈ (cs.dropWhile isBlank).head? := by
      rw [trim, trimEnd_eq_rdropWhile] at hc
      change c ∈ (trimStart cs).head?
      rw [← hds, List.head?_append, hc]
      exact rfl
    have hnot := List.head?_dropWhile_not isBlank cs
    rw [hfirst] at hnot
    exact isBlank_eq_false_iff.1 hnot
  · exact fun c hc => not_isWhiteSpace_getLast?_trimEnd hc

/-- Blanks at the two ends are all that trimming takes off. -/
lemma exists_trim (cs : List Char) :
    ∃ bs es, AllBlank bs ∧ AllBlank es ∧ cs = bs ++ trim cs ++ es := by
  refine ⟨cs.takeWhile isBlank, (trimStart cs).rtakeWhile isBlank,
    fun _ hc => isBlank_iff.1 (List.mem_takeWhile_imp hc), allBlank_rtakeWhile _, ?_⟩
  have hend : trim cs ++ (trimStart cs).rtakeWhile isBlank = trimStart cs :=
    List.rdropWhile_append_rtakeWhile
  rw [List.append_assoc, hend]
  exact List.takeWhile_append_dropWhile.symm

/-- A text that is blank at neither end is found again between blanks. -/
lemma Tight.trim_append {bs cs es : List Char} (h : Tight cs) (hbs : AllBlank bs)
    (hes : AllBlank es) : trim (bs ++ cs ++ es) = cs := by
  rw [trim, List.append_assoc, trimStart_append_of_all_blank (allBlank_iff.1 hbs)]
  cases cs with
  | nil => rw [List.nil_append, trimStart_of_all_blank (allBlank_iff.1 hes)]; rfl
  | cons c cs =>
    have hc : isBlank c = false := isBlank_eq_false_iff.2 (h.head c rfl)
    rw [List.cons_append, trimStart_of_head_not_blank hc, ← List.cons_append,
      trimEnd_append_of_all_blank (allBlank_iff.1 hes), trimEnd_eq_self h.last]

/-- A text that is blank at neither end is left as it is. -/
lemma Tight.trim_eq {cs : List Char} (h : Tight cs) : trim cs = cs := by
  have hnil : AllBlank [] := nofun
  have htrim := h.trim_append hnil hnil
  rwa [List.nil_append, List.append_nil] at htrim

/-- **Trimming finds the text that stands between the blanks at both ends.** -/
theorem trim_eq_iff {cs ts : List Char} :
    trim cs = ts ↔ Tight ts ∧ ∃ bs es, AllBlank bs ∧ AllBlank es ∧ cs = bs ++ ts ++ es := by
  constructor
  · rintro rfl
    exact ⟨tight_trim cs, exists_trim cs⟩
  · rintro ⟨htight, bs, es, hbs, hes, rfl⟩
    exact htight.trim_append hbs hes

/-! ### The end of a text -/

/-- A text is the other one without the blanks at its end: blanks are all that was taken off, and
the last character that is left is none. -/
structure EndTrimmed (source front : String) : Prop where
  exists_blanks : ∃ bs, AllBlank bs ∧ source.toList = front.toList ++ bs
  last : ∀ c ∈ front.toList.getLast?, ¬ IsWhiteSpace c

lemma endTrimmed_trimmedEnd (source : String) : EndTrimmed source (trimmedEnd source) := by
  have hfront : (trimmedEnd source).toList = trimEnd source.toList := String.toList_ofList
  refine ⟨⟨source.toList.rtakeWhile isBlank, allBlank_rtakeWhile _, ?_⟩, ?_⟩
  · rw [hfront]
    exact List.rdropWhile_append_rtakeWhile.symm
  · rw [hfront]
    exact fun c hc => not_isWhiteSpace_getLast?_trimEnd hc

/-- **There is one text that is left when the blanks at the end are taken off.** -/
theorem endTrimmed_iff {source front : String} :
    EndTrimmed source front ↔ front = trimmedEnd source := by
  constructor
  · rintro ⟨⟨bs, hbs, hsource⟩, hlast⟩
    rw [trimmedEnd, hsource, trimEnd_append_of_all_blank (allBlank_iff.1 hbs),
      trimEnd_eq_self hlast, String.ofList_toList]
  · rintro rfl
    exact endTrimmed_trimmedEnd source

end Tidemark.Text
