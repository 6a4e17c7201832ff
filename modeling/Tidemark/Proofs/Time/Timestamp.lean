import Mathlib.Algebra.Group.Nat.Defs
import Mathlib.Tactic.Common
import Tidemark.Proofs.Result
import Tidemark.Proofs.Text.Trim
import Tidemark.Time.Timestamp

/-!
# Instants survive their text

The parts of a timestamp are numbers padded with zeros.  A padded number below `10 ^ w` has exactly
`w` digits (`length_padded`), so a reader that takes at most `w` digits takes the number and no more
(`number_padded`).  Years beyond four digits carry a sign and end at the hyphen after them, and a
fraction ends at the `Z`.  Reading the text of an instant that exists therefore gives that instant.
Conversely, whatever text is read as an instant, the instant exists (`valid_of_read`).
-/

namespace Tidemark.Time

open Timestamp

/-! ### Runs of digits -/

namespace Timestamp

/-- A decimal digit is read as its value. -/
lemma digit?_of_isDigit {c : Char} (h : c.isDigit = true) : digit? c = some (c.toNat - 48) := by
  simp only [Char.isDigit, Bool.and_eq_true, decide_eq_true_eq] at h
  have hlow : '0' ≤ c := h.1
  have hhigh : c ≤ '9' := h.2
  simp [digit?, hlow, hhigh]

/-- A run of digits that fits the width is taken whole. -/
lemma digits_append {ds : List Char} (hds : ∀ c ∈ ds, c.isDigit = true) {width : Nat}
    (hw : ds.length ≤ width) (n : Nat) (rest : List Char) :
    digits width n (ds ++ rest)
      = digits (width - ds.length) (Nat.ofDigitChars 10 ds n) rest := by
  induction ds generalizing width n with
  | nil => simp
  | cons d ds ih =>
    have hd : digit? d = some (d.toNat - 48) := digit?_of_isDigit (hds d (by simp))
    cases width with
    | zero => simp at hw
    | succ width =>
      have hw' : ds.length ≤ width := by simpa using hw
      have htail := ih (fun c hc => hds c (by simp [hc])) hw' (10 * n + (d.toNat - 48))
      simp only [List.cons_append, digits, hd]
      rw [htail, Nat.ofDigitChars_cons]
      simp

/-- A number ends where the width is used up or no digit follows. -/
lemma number_append {ds : List Char} (hds : ∀ c ∈ ds, c.isDigit = true) (hne : ds ≠ [])
    {width : Nat} (hw : ds.length ≤ width) (rest : List Char)
    (hend : ds.length = width ∨ ∃ x xs, rest = x :: xs ∧ digit? x = none) :
    number width (ds ++ rest) = .ok (Nat.ofDigitChars 10 ds 0, rest) := by
  have hstop : digits (width - ds.length) (Nat.ofDigitChars 10 ds 0) rest
      = (Nat.ofDigitChars 10 ds 0, rest) := by
    rcases hend with hfull | ⟨x, xs, rfl, hx⟩
    · rw [hfull, Nat.sub_self, digits]
    · cases width - ds.length with
      | zero => rw [digits]
      | succ k => simp [digits, hx]
  have htake := digits_append hds hw 0 rest
  cases hcons : ds with
  | nil => exact absurd hcons hne
  | cons d ds' =>
    have hd : digit? d = some (d.toNat - 48) := digit?_of_isDigit (hds d (by simp [hcons]))
    rw [hcons] at htake hstop
    rw [List.cons_append] at htake ⊢
    simp only [number, hd, Option.isSome_some, if_true]
    rw [htake, hstop]

end Timestamp

/-! ### Padded numbers -/

namespace Instant

/-- Padding puts nothing but digits. -/
lemma isDigit_of_mem_padded {width n : Nat} {c : Char} (hc : c ∈ padded width n) :
    c.isDigit = true := by
  rcases List.mem_append.1 hc with hzero | hdigit
  · rw [List.eq_of_mem_replicate hzero]
    decide
  · exact Nat.isDigit_of_mem_toDigits (by decide) (by decide) hdigit

/-- Zeros in front do not count. -/
lemma ofDigitChars_padded (width n : Nat) : Nat.ofDigitChars 10 (padded width n) 0 = n := by
  simp [padded, Nat.ofDigitChars_append]

/-- A number that fits the width is padded to exactly that width. -/
lemma length_padded {width n : Nat} (hw : 0 < width) (hn : n < 10 ^ width) :
    (padded width n).length = width := by
  have hlen : (Nat.toDigits 10 n).length ≤ width :=
    (Nat.length_toDigits_le_iff (by decide) hw).2 hn
  simp [padded]
  omega

lemma padded_ne_nil (width n : Nat) : padded width n ≠ [] := by
  simp [padded]

/-- A text that starts with a padded number has no blanks in front. -/
lemma trimStart_padded (width n : Nat) (rest : List Char) :
    Text.trimStart (padded width n ++ rest) = padded width n ++ rest := by
  cases hcons : padded width n with
  | nil => exact absurd hcons (padded_ne_nil width n)
  | cons c cs =>
    have hc : c.isDigit = true := isDigit_of_mem_padded (by rw [hcons]; simp)
    exact Text.trimStart_of_head_not_blank (Text.isBlank_of_isDigit hc) (cs ++ rest)

end Instant

open Instant

namespace Timestamp

/-- A padded number is read back by a reader of the same width. -/
lemma number_padded (width : Nat) {n : Nat} (hw : 0 < width) (hn : n < 10 ^ width)
    (rest : List Char) : number width (padded width n ++ rest) = .ok (n, rest) := by
  have hlen := length_padded hw hn
  have h := number_append (fun _ hc => isDigit_of_mem_padded hc) (padded_ne_nil width n)
    (Nat.le_of_eq hlen) rest (Or.inl hlen)
  rwa [ofDigitChars_padded] at h

/-- A padded number is read back up to a character that is no digit. -/
lemma number_padded_cons {width k n : Nat} {x : Char} {rest : List Char}
    (hlen : (padded k n).length ≤ width) (hx : digit? x = none) :
    number width (padded k n ++ x :: rest) = .ok (n, x :: rest) := by
  have h := number_append (fun _ hc => isDigit_of_mem_padded hc) (padded_ne_nil k n) hlen
    (x :: rest) (Or.inr ⟨x, rest, rfl, hx⟩)
  rwa [ofDigitChars_padded] at h

/-- Two padded digits within bounds are read back. -/
lemma numberWithin_padded {low high n : Nat} (hlow : low ≤ n) (hhigh : n ≤ high) (hn : n < 100)
    (rest : List Char) : numberWithin low high (padded 2 n ++ rest) = .ok (n, rest) := by
  have hread := number_padded 2 (by decide) (by simpa using hn) rest
  rw [numberWithin, trimStart_padded, hread]
  simp [bind, Except.bind, hlow, hhigh, pure, Except.pure]

/-! ### The parts of a timestamp -/

/-- A number that is at least as long as its text leaves no doubt about its end. -/
lemma length_padded_le (k n : Nat) (x : Char) (rest : List Char) :
    (padded k n).length ≤ (padded k n ++ x :: rest).length := by
  simp

/-- The text of a year is read back up to the hyphen after it. -/
lemma year_yearText {y : Int} (hlow : minYear ≤ y) (hhigh : y ≤ maxYear) (rest : List Char) :
    year (yearText y ++ '-' :: rest) = .ok (y, '-' :: rest) := by
  have hhyphen : digit? '-' = none := by decide
  unfold minYear at hlow
  unfold maxYear at hhigh
  unfold yearText
  by_cases hcommon : 0 ≤ y ∧ y ≤ 9999
  · have hread := number_padded 4 (n := y.toNat) (by decide) (by omega) ('-' :: rest)
    have hy : (y.toNat : Int) = y := Int.toNat_of_nonneg hcommon.1
    rw [if_pos hcommon, year, trimStart_padded]
    cases hcons : padded 4 y.toNat with
    | nil => exact absurd hcons (padded_ne_nil 4 y.toNat)
    | cons c cs =>
      have hc : c.isDigit = true := isDigit_of_mem_padded (by rw [hcons]; simp)
      rw [hcons] at hread
      split
      · next h =>
        rw [(List.cons.inj h).1] at hc
        exact absurd hc (by decide)
      · next h =>
        rw [(List.cons.inj h).1] at hc
        exact absurd hc (by decide)
      · rw [hread]
        simp [bind, Except.bind, pure, Except.pure, hy]
  · rw [if_neg hcommon]
    have hread : number (padded 4 y.natAbs ++ '-' :: rest).length (padded 4 y.natAbs ++ '-' :: rest)
        = .ok (y.natAbs, '-' :: rest) :=
      number_padded_cons (length_padded_le 4 y.natAbs '-' rest) hhyphen
    by_cases hneg : y < 0
    · have hblank : Text.trimStart ('-' :: (padded 4 y.natAbs ++ '-' :: rest))
          = '-' :: (padded 4 y.natAbs ++ '-' :: rest) :=
        Text.trimStart_of_head_not_blank (by decide) _
      have hbound : y.natAbs ≤ 0x80000000 := by omega
      have hy : -(y.natAbs : Int) = y := by omega
      rw [if_pos hneg, List.cons_append, year, hblank]
      simp only [hread, bind, Except.bind, hbound, if_true, pure, Except.pure, hy]
    · have hblank : Text.trimStart ('+' :: (padded 4 y.natAbs ++ '-' :: rest))
          = '+' :: (padded 4 y.natAbs ++ '-' :: rest) :=
        Text.trimStart_of_head_not_blank (by decide) _
      have hbound : y.natAbs < 0x80000000 := by omega
      have hy : (y.natAbs : Int) = y := by omega
      rw [if_neg hneg, List.cons_append, year, hblank]
      simp only [hread, bind, Except.bind, hbound, if_true, pure, Except.pure, hy]

/-- A fraction of `k` digits is read back in nanoseconds. -/
lemma fraction_padded {k n : Nat} (hk : 0 < k) (hk' : k ≤ 9) (hn : n < 10 ^ k) :
    fraction ('.' :: (padded k n ++ ['Z'])) = .ok (n * Nat.pow 10 (9 - k), ['Z']) := by
  have hlen : (padded k n).length = k := length_padded hk hn
  have hread : number 9 (padded k n ++ ['Z']) = .ok (n, ['Z']) :=
    number_padded_cons (by omega) (by decide)
  have hwidth : (padded k n ++ ['Z']).length - ['Z'].length = k := by simp [hlen]
  have hdrop : ['Z'].dropWhile (fun c => (digit? c).isSome) = ['Z'] := by decide
  simp only [fraction, hread, bind, Except.bind, hwidth, hdrop, pure, Except.pure]

/-- The text of a fraction is read back up to the `Z` after it. -/
lemma fraction_fractionText {n : Nat} (hn : n < 1000000000) :
    fraction (fractionText n ++ ['Z']) = .ok (n, ['Z']) := by
  unfold fractionText
  by_cases hzero : n = 0
  · rw [if_pos hzero, hzero]
    rfl
  · rw [if_neg hzero]
    by_cases hmilli : n % 1000000 = 0
    · have h := fraction_padded (k := 3) (n := n / 1000000) (by decide) (by decide) (by omega)
      have hn' : n / 1000000 * Nat.pow 10 (9 - 3) = n := by
        have hpow : Nat.pow 10 (9 - 3) = 1000000 := by decide
        rw [hpow]
        omega
      rw [if_pos hmilli, List.cons_append, h, hn']
    · rw [if_neg hmilli]
      by_cases hmicro : n % 1000 = 0
      · have h := fraction_padded (k := 6) (n := n / 1000) (by decide) (by decide) (by omega)
        have hn' : n / 1000 * Nat.pow 10 (9 - 6) = n := by
          have hpow : Nat.pow 10 (9 - 6) = 1000 := by decide
          rw [hpow]
          omega
        rw [if_pos hmicro, List.cons_append, h, hn']
      · have h := fraction_padded (k := 9) (n := n) (by decide) (by decide) (by omega)
        have hn' : n * Nat.pow 10 (9 - 9) = n := Nat.mul_one n
        rw [if_neg hmicro, List.cons_append, h, hn']

/-- A time in UTC is its own instant. -/
lemma resolve_zero {t : Instant} (h : t.Valid) : resolve t 0 = .ok t := by
  have hlocal : t.ofLocal 0 = t := by
    obtain ⟨-, -, -, -, -, -, hhour, hminute, -, -⟩ := h
    have hlow : ¬ (60 * (t.hour : Int) + t.minute - 0 < 0) := by omega
    have hhigh : ¬ (1440 ≤ 60 * (t.hour : Int) + t.minute - 0) := by omega
    have hh : ((60 * (t.hour : Int) + t.minute - 0) / 60).toNat = t.hour := by omega
    have hm : ((60 * (t.hour : Int) + t.minute - 0) % 60).toNat = t.minute := by omega
    simp only [ofLocal, hlow, if_false, hhigh, hh, hm]
  have hguard : ¬ (¬ t.Valid ∨ 1440 ≤ Int.natAbs 0) := by simp [h]
  rw [resolve, if_neg hguard]
  simp only [hlocal, h, if_true]

end Timestamp

/-- Reading the text of an instant that exists gives that instant. -/
theorem read_render {t : Instant} (h : t.Valid) : Timestamp.read t.render = .ok t := by
  have hvalid := h
  obtain ⟨hminYear, hmaxYear, hmonth, hmonth', hday, hday', hhour, hminute, hsecond, hnano⟩ := h
  have hdays : daysInMonth t.year t.month ≤ 31 := by
    unfold daysInMonth
    split_ifs <;> decide
  have hhyphen : ∀ cs, Text.trimStart ('-' :: cs) = '-' :: cs :=
    Text.trimStart_of_head_not_blank (by decide)
  have hcolon : ∀ cs, Text.trimStart (':' :: cs) = ':' :: cs :=
    Text.trimStart_of_head_not_blank (by decide)
  have hzulu : Timestamp.offset (Text.trimStart ['Z']) = .ok (0, []) := by decide
  have hdone : Text.trimStart [] = [] := rfl
  rw [Timestamp.read, Instant.render, String.toList_ofList, readChars, renderChars]
  simp only [List.append_assoc, List.cons_append]
  rw [year_yearText hminYear hmaxYear]
  simp only [bind, Except.bind, hhyphen, Timestamp.expect, if_true]
  rw [numberWithin_padded hmonth hmonth' (by omega)]
  simp only [hhyphen, if_true]
  rw [numberWithin_padded hday (by omega) (by omega)]
  simp only [separator, true_or, if_true]
  rw [numberWithin_padded (Nat.zero_le _) (by omega) (by omega)]
  simp only [hcolon, if_true]
  rw [numberWithin_padded (Nat.zero_le _) (by omega) (by omega)]
  simp only [hcolon, if_true]
  rw [numberWithin_padded (Nat.zero_le _) hsecond (by omega)]
  simp only [fraction_fractionText hnano, hzulu, hdone, ne_eq, not_true_eq_false, if_false]
  exact resolve_zero hvalid

/-! ### What is read exists -/

namespace Timestamp

/-- An instant is accepted only if it lies in the calendar. -/
lemma valid_of_resolve {t u : Instant} {offset : Int} (h : resolve t offset = .ok u) :
    u.Valid := by
  unfold resolve at h
  split at h
  · cases h
  · dsimp only at h
    split at h
    next hvalid =>
      obtain rfl := Except.ok.inj h
      exact hvalid
    next => cases h

/-- Reading ends with the judgement whether the instant exists, whatever the parts were. -/
lemma valid_of_readChars {cs : List Char} {t : Instant} (h : readChars cs = .ok t) : t.Valid := by
  unfold readChars at h
  obtain ⟨⟨year, cs₁⟩, -, h⟩ := exists_of_bind_eq_ok h
  obtain ⟨cs₂, -, h⟩ := exists_of_bind_eq_ok h
  obtain ⟨⟨month, cs₃⟩, -, h⟩ := exists_of_bind_eq_ok h
  obtain ⟨cs₄, -, h⟩ := exists_of_bind_eq_ok h
  obtain ⟨⟨day, cs₅⟩, -, h⟩ := exists_of_bind_eq_ok h
  obtain ⟨cs₆, -, h⟩ := exists_of_bind_eq_ok h
  obtain ⟨⟨hour, cs₇⟩, -, h⟩ := exists_of_bind_eq_ok h
  obtain ⟨cs₈, -, h⟩ := exists_of_bind_eq_ok h
  obtain ⟨⟨minute, cs₉⟩, -, h⟩ := exists_of_bind_eq_ok h
  obtain ⟨cs₁₀, -, h⟩ := exists_of_bind_eq_ok h
  obtain ⟨⟨second, cs₁₁⟩, -, h⟩ := exists_of_bind_eq_ok h
  obtain ⟨⟨nanosecond, cs₁₂⟩, -, h⟩ := exists_of_bind_eq_ok h
  obtain ⟨⟨offset, cs₁₃⟩, -, h⟩ := exists_of_bind_eq_ok h
  dsimp only at h
  split at h
  · cases h
  · exact valid_of_resolve h

end Timestamp

/-- A text that is read as an instant names one that exists. -/
theorem valid_of_read {s : String} {t : Instant} (h : Timestamp.read s = .ok t) : t.Valid :=
  Timestamp.valid_of_readChars h

end Tidemark.Time
