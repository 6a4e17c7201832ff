import Mathlib.Tactic.Common
import Tidemark.Proofs.Result
import Tidemark.Proofs.Text.Trim
import Tidemark.Text.Count

/-!
# Counts survive their decimal text

`Count.render` writes a count without leading zeros, and `Count.read` scans digits from the left.
Any digits are read as their value, leading zeros or not, as long as it is below the bound
(`readChars_of_isDigit`): the value so far only grows, so it is below the bound at every digit.  In
particular the digits of a count are read back.  Trimming leaves a decimal text as it is, because no
digit is blank.  Nothing else than digits, perhaps after a plus sign, is read as a count
(`readTrimmed_eq_ok_iff`).  Digits write a number of any size (`Writes`), and one from the bound on
is refused (`Writes.readTrimmed_of_bound_le`).
-/

namespace Tidemark.Text

namespace Count

/-- A decimal digit is read as its value. -/
lemma digit?_of_isDigit {c : Char} (h : c.isDigit = true) :
    digit? c = some (c.toNat - '0'.toNat) := by
  simp only [Char.isDigit, Bool.and_eq_true, decide_eq_true_eq] at h
  have hrange : '0' ≤ c ∧ c ≤ '9' := h
  rw [digit?, if_pos hrange]

/-- No digit of a decimal text is blank. -/
lemma isBlank_of_mem_digits {n : Nat} {c : Char} (hc : c ∈ digits n) : isBlank c = false :=
  isBlank_of_isDigit (Nat.isDigit_of_mem_toDigits (by decide) (by decide) hc)

/-- More digits do not make a value less. -/
lemma le_ofDigitChars (ds : List Char) (n : Nat) : n ≤ Nat.ofDigitChars 10 ds n := by
  induction ds generalizing n with
  | nil => exact Nat.le_refl n
  | cons d ds ih =>
    have hlater := ih (10 * n + (d.toNat - '0'.toNat))
    rw [Nat.ofDigitChars_cons]
    omega

/-- Digits are scanned as their value, if it is below the bound. -/
lemma readDigits_of_isDigit {ds : List Char} (hds : ∀ c ∈ ds, c.isDigit = true) {n : Nat}
    (h : Nat.ofDigitChars 10 ds n < bound) : readDigits n ds = .ok (Nat.ofDigitChars 10 ds n) := by
  induction ds generalizing n with
  | nil => rfl
  | cons d ds ih =>
    have hd : digit? d = some (d.toNat - '0'.toNat) := digit?_of_isDigit (hds d (by simp))
    rw [Nat.ofDigitChars_cons] at h ⊢
    -- the value so far is below the bound, because it only grows
    have hlt : 10 * n + (d.toNat - '0'.toNat) < bound := Nat.lt_of_le_of_lt (le_ofDigitChars ds _) h
    simp only [readDigits, hd, if_pos hlt]
    exact ih (fun c hc => hds c (List.mem_cons_of_mem d hc)) h

/-- Digits with a value from the bound on are too large: the first digit that takes the value so far
out of range is reported. -/
lemma readDigits_of_bound_le {ds : List Char} (hds : ∀ c ∈ ds, c.isDigit = true) {n : Nat}
    (hn : n < bound) (h : bound ≤ Nat.ofDigitChars 10 ds n) :
    readDigits n ds = .error .tooLarge := by
  induction ds generalizing n with
  | nil => exact absurd hn (Nat.not_lt.2 h)
  | cons d ds ih =>
    have hd : digit? d = some (d.toNat - '0'.toNat) := digit?_of_isDigit (hds d (by simp))
    rw [Nat.ofDigitChars_cons] at h
    simp only [readDigits, hd]
    split
    next hlt => exact ih (fun c hc => hds c (List.mem_cons_of_mem d hc)) hlt h
    next => rfl

/-- Digits are scanned from the first one on, whether a plus sign stands before them or not. -/
lemma readChars_eq_readDigits {cs ds : List Char} (hcs : cs = ds ∨ cs = '+' :: ds)
    (hds : ∀ c ∈ ds, c.isDigit = true) (hne : ds ≠ []) : readChars cs = readDigits 0 ds := by
  obtain ⟨d, ds, rfl⟩ := List.exists_cons_of_ne_nil hne
  have hd : d ≠ '+' := by
    rintro rfl
    exact absurd (hds '+' List.mem_cons_self) (by decide)
  rcases hcs with rfl | rfl
  · unfold readChars
    split
    next h => cases h
    next h => exact absurd (List.cons.inj h).1 hd
    next h => exact absurd (List.cons.inj h).1 hd
    next => rfl
  · rfl

/-- Digits are read as a count, if their value is one. -/
lemma readChars_of_isDigit {ds : List Char} (hds : ∀ c ∈ ds, c.isDigit = true) (hne : ds ≠ [])
    (h : Nat.ofDigitChars 10 ds 0 < bound) : readChars ds = .ok (Nat.ofDigitChars 10 ds 0) := by
  rw [readChars_eq_readDigits (.inl rfl) hds hne, readDigits_of_isDigit hds h]

/-- A decimal text below the bound is read as its number. -/
lemma readChars_digits {n : Nat} (hn : n < bound) : readChars (digits n) = .ok n := by
  have hdigits : ∀ c ∈ digits n, c.isDigit = true := fun c hc =>
    Nat.isDigit_of_mem_toDigits (by decide) (by decide) hc
  have hvalue : Nat.ofDigitChars 10 (digits n) 0 = n :=
    Nat.ofDigitChars_toDigits (by decide) (by decide)
  have hread := readChars_of_isDigit hdigits Nat.toDigits_ne_nil
  rw [hvalue] at hread
  exact hread hn

/-- Every count is below the bound. -/
lemma toNat_lt_bound (n : UInt64) : n.toNat < bound :=
  n.toNat_lt

/-- A rendered count is read back, also after trimming. -/
theorem readTrimmed_render (n : UInt64) : readTrimmed (render n) = .ok n := by
  have htight : Tight (digits n.toNat) :=
    tight_of_forall_not_blank fun _ hc => isBlank_of_mem_digits hc
  have htrim : trim (digits n.toNat) = digits n.toNat := htight.trim_eq
  have hread : readChars (digits n.toNat) = .ok n.toNat := readChars_digits (toNat_lt_bound n)
  simp [readTrimmed, render, htrim, hread, Except.map]

/-! ### What is read as a count -/

/-- What is scanned as digits is digits, and gives their value. -/
lemma isDigit_of_readDigits {cs : List Char} {n m : Nat} (hn : n < bound)
    (h : readDigits n cs = .ok m) :
    (∀ c ∈ cs, c.isDigit = true) ∧ Nat.ofDigitChars 10 cs n = m ∧ m < bound := by
  induction cs generalizing n with
  | nil =>
    obtain rfl := Except.ok.inj h
    exact ⟨nofun, rfl, hn⟩
  | cons c cs ih =>
    rw [readDigits] at h
    split at h
    · cases h
    next d hd =>
      split at h
      next hlt =>
        obtain ⟨hcs, hvalue, hm⟩ := ih hlt h
        rw [digit?] at hd
        split at hd
        next hrange =>
          obtain rfl := Option.some.inj hd
          have hc : c.isDigit = true := by
            simp only [Char.isDigit, Bool.and_eq_true, decide_eq_true_eq]
            exact hrange
          refine ⟨List.forall_mem_cons.2 ⟨hc, hcs⟩, ?_, hm⟩
          rw [Nat.ofDigitChars_cons, hvalue]
        · cases hd
      · cases h

/-- What is read as a count is digits, perhaps after a plus sign, with a value below the bound. -/
lemma readChars_eq_ok_iff {cs : List Char} {m : Nat} :
    readChars cs = .ok m ↔ ∃ ds, ds ≠ [] ∧ (cs = ds ∨ cs = '+' :: ds) ∧
      (∀ c ∈ ds, c.isDigit = true) ∧ Nat.ofDigitChars 10 ds 0 = m ∧ m < bound := by
  constructor
  · intro h
    unfold readChars at h
    split at h
    · cases h
    · cases h
    next cs hne =>
      obtain ⟨hds, hvalue, hm⟩ := isDigit_of_readDigits (by decide) h
      exact ⟨cs, hne, .inr rfl, hds, hvalue, hm⟩
    next hne _ _ =>
      obtain ⟨hds, hvalue, hm⟩ := isDigit_of_readDigits (by decide) h
      exact ⟨cs, hne, .inl rfl, hds, hvalue, hm⟩
  · rintro ⟨ds, hne, hcs, hds, rfl, hm⟩
    rw [readChars_eq_readDigits hcs hds hne, readDigits_of_isDigit hds hm]

/-- A text is read as a count exactly if, between blanks, it is digits with the value of the count,
perhaps after a plus sign. -/
theorem readTrimmed_eq_ok_iff {s : String} {n : UInt64} :
    readTrimmed s = .ok n ↔ ∃ ds, ds ≠ [] ∧ (trim s.toList = ds ∨ trim s.toList = '+' :: ds) ∧
      (∀ c ∈ ds, c.isDigit = true) ∧ Nat.ofDigitChars 10 ds 0 = n.toNat := by
  constructor
  · intro h
    obtain ⟨m, hm, rfl⟩ := exists_of_map_eq_ok h
    obtain ⟨ds, hne, htext, hds, hvalue, hbound⟩ := readChars_eq_ok_iff.1 hm
    refine ⟨ds, hne, htext, hds, ?_⟩
    rw [hvalue, UInt64.toNat_ofNat_of_lt' hbound]
  · rintro ⟨ds, hne, htext, hds, hvalue⟩
    have hread : readChars (trim s.toList) = .ok n.toNat :=
      readChars_eq_ok_iff.2 ⟨ds, hne, htext, hds, hvalue, toNat_lt_bound n⟩
    rw [readTrimmed, hread]
    exact congrArg Except.ok (UInt64.ofNat_toNat)

/-! ### Numbers of any size -/

/-- A text writes a number: between blanks it has digits of that value, perhaps after a plus
sign. -/
def Writes (s : String) (n : ℕ) : Prop :=
  ∃ bs ds es, AllBlank bs ∧ AllBlank es ∧ ds ≠ [] ∧ (∀ c ∈ ds, c.isDigit = true) ∧
    (s.toList = bs ++ ds ++ es ∨ s.toList = bs ++ '+' :: ds ++ es) ∧
    Nat.ofDigitChars 10 ds 0 = n

/-- The digits, and a plus sign before them, are what trimming leaves. -/
lemma writes_iff {s : String} {n : ℕ} : Writes s n ↔ ∃ ds, ds ≠ [] ∧
    (trim s.toList = ds ∨ trim s.toList = '+' :: ds) ∧ (∀ c ∈ ds, c.isDigit = true) ∧
    Nat.ofDigitChars 10 ds 0 = n := by
  constructor
  · rintro ⟨bs, ds, es, hbs, hes, hne, hds, hs, hvalue⟩
    have hdigits : ∀ c ∈ ds, isBlank c = false := fun c hc => isBlank_of_isDigit (hds c hc)
    have hsigned : ∀ c ∈ '+' :: ds, isBlank c = false :=
      List.forall_mem_cons.2 ⟨by decide, hdigits⟩
    refine ⟨ds, hne, ?_, hds, hvalue⟩
    rcases hs with hs | hs
    · exact .inl (hs ▸ (tight_of_forall_not_blank hdigits).trim_append hbs hes)
    · exact .inr (hs ▸ (tight_of_forall_not_blank hsigned).trim_append hbs hes)
  · rintro ⟨ds, hne, htrim, hds, hvalue⟩
    obtain ⟨bs, es, hbs, hes, hs⟩ := exists_trim s.toList
    refine ⟨bs, ds, es, hbs, hes, hne, hds, ?_, hvalue⟩
    rcases htrim with htrim | htrim <;> rw [htrim] at hs
    · exact .inl hs
    · exact .inr hs

/-- A count is read exactly from the texts that write it. -/
theorem readTrimmed_eq_ok_iff_writes {s : String} {n : UInt64} :
    readTrimmed s = .ok n ↔ Writes s n.toNat :=
  readTrimmed_eq_ok_iff.trans writes_iff.symm

/-- A number from the bound on is refused as such, and never taken for a lesser one. -/
lemma Writes.readTrimmed_of_bound_le {s : String} {n : ℕ} (h : Writes s n) (hn : bound ≤ n) :
    readTrimmed s = .error .tooLarge := by
  obtain ⟨ds, hne, htrim, hds, rfl⟩ := writes_iff.1 h
  rw [readTrimmed, readChars_eq_readDigits htrim hds hne,
    readDigits_of_bound_le hds (by decide) hn]
  rfl

/-- What is read from a text that writes a number is this number. -/
lemma Writes.eq_toNat {s : String} {n : ℕ} {m : UInt64} (h : Writes s n)
    (hread : readTrimmed s = .ok m) : n = m.toNat := by
  rcases Nat.lt_or_ge n bound with hn | hn
  · have hvalue : (UInt64.ofNat n).toNat = n := UInt64.toNat_ofNat_of_lt' hn
    have hn' : readTrimmed s = .ok (UInt64.ofNat n) := by
      rwa [readTrimmed_eq_ok_iff_writes, hvalue]
    rw [← Except.ok.inj (hn'.symm.trans hread), hvalue]
  · cases (h.readTrimmed_of_bound_le hn).symm.trans hread

/-- The decimal text of a count writes it, between any blanks. -/
lemma writes_render_between {front back : String} (hfront : AllBlank front.toList)
    (hback : AllBlank back.toList) (n : UInt64) : Writes (front ++ render n ++ back) n.toNat := by
  refine ⟨front.toList, digits n.toNat, back.toList, hfront, hback, Nat.toDigits_ne_nil,
    fun c hc => Nat.isDigit_of_mem_toDigits (by decide) (by decide) hc, .inl ?_,
    Nat.ofDigitChars_toDigits (by decide) (by decide)⟩
  rw [String.toList_append, String.toList_append, render, String.toList_ofList]

end Count

end Tidemark.Text
