import Mathlib.Tactic.Common
import Mathlib.Tactic.IntervalCases
import Tidemark.Time.Instant

/-!
# The instants of a clock exist

A clock counts seconds from the start of 1970.  `Instant.ofUnix` cuts the days of that count into
eras of 400 years, and finds the year of a day by a division that leaves out the leap days before
it.  The days of an era fall into centuries and into cycles of four years (`exists_cycle`); counted
in those, the division is exact (`yearOfEra_eq`), and the day of the year is what is left.  Years
begin in March here, so that only the last month of a year depends on whether it is a leap year
(`date_of_dayOfYear`).  Every count within the calendar therefore gives an instant that exists.
-/

namespace Tidemark.Time

/-! ### The years of an era -/

/-- A day of an era lies in a century, in a cycle of four years of that century, and on a day of
that cycle.  The last day of a cycle is missing at the end of a century, except at the end of the
era. -/
lemma exists_cycle {d : ℕ} (hd : d < 146097) :
    ∃ c q t, c < 4 ∧ q < 25 ∧ t < 1461 ∧ d = 36524 * c + 1461 * q + t ∧
      (q = 24 → t = 1460 → c = 3) := by
  by_cases hlast : d = 146096
  · exact ⟨3, 24, 1460, by omega⟩
  · refine ⟨d / 36524, d % 36524 / 1461, d % 36524 % 1461, ?_⟩
    omega

/-- The days of an era without the leap days before each of them. -/
lemma sub_leapDays_eq {d c q t : ℕ} (hc : c < 4) (hq : q < 25) (ht : t < 1461)
    (hd : d = 36524 * c + 1461 * q + t) (hlast : q = 24 → t = 1460 → c = 3) :
    d - d / 1460 + d / 36524 - d / 146096
      = 365 * (100 * c + 4 * q) + (t - (24 * c + q + t) / 1460) := by
  have hcycles : d / 1460 = 25 * c + q + (24 * c + q + t) / 1460 := by
    have hsplit : d = 1460 * (25 * c + q) + (24 * c + q + t) := by omega
    rw [hsplit, Nat.mul_add_div (by decide)]
  have hcenturies : d / 36524 = c + d / 146096 := by
    have hcase : 1461 * q + t < 36524 ∨ d = 146096 ∧ c = 3 := by omega
    clear hcycles
    rcases hcase with h | ⟨rfl, rfl⟩
    · have hera : d / 146096 = 0 := by omega
      rw [hera, hd, Nat.add_assoc, Nat.mul_add_div (by decide), Nat.div_eq_of_lt h]
    · rfl
  have hle : (24 * c + q + t) / 1460 ≤ t := by omega
  rw [hcycles, hcenturies]
  generalize (24 * c + q + t) / 1460 = a at hle ⊢
  generalize d / 146096 = b
  omega

/-- The year of a day, counted from the start of its era. -/
lemma yearOfEra_eq {d c q t : ℕ} (hc : c < 4) (hq : q < 25) (ht : t < 1461)
    (hd : d = 36524 * c + 1461 * q + t) (hlast : q = 24 → t = 1460 → c = 3) :
    (d - d / 1460 + d / 36524 - d / 146096) / 365 = 100 * c + 4 * q + min t 1459 / 365 := by
  -- the leap day that is left out or not does not move a day to another year
  have hyear : (t - (24 * c + q + t) / 1460) / 365 = min t 1459 / 365 := by
    clear hd hlast
    have hskip : (24 * c + q + t) / 1460 ≤ 1 := by omega
    rcases Nat.le_one_iff_eq_zero_or_eq_one.1 hskip with h | h
    · rw [h]
      omega
    · rw [h]
      omega
  rw [sub_leapDays_eq hc hq ht hd hlast, Nat.mul_add_div (by decide), hyear]

/-- A day of an era lies in a year of a cycle of a century, and it is the last day of a leap year
only if that is the last year of its cycle. -/
lemma exists_year {d : ℕ} (hd : d < 146097) :
    ∃ c q s n, c < 4 ∧ q < 25 ∧ s < 4 ∧ n ≤ 365 ∧ d = 36524 * c + 1461 * q + 365 * s + n ∧
      (d - d / 1460 + d / 36524 - d / 146096) / 365 = 100 * c + 4 * q + s ∧
      (n = 365 → s = 3 ∧ (q = 24 → c = 3)) := by
  obtain ⟨c, q, t, hc, hq, ht, hcycle, hskip⟩ := exists_cycle hd
  have hyear := yearOfEra_eq hc hq ht hcycle hskip
  have hs : min t 1459 / 365 < 4 ∧ 365 * (min t 1459 / 365) ≤ t ∧
      t - 365 * (min t 1459 / 365) ≤ 365 ∧
      (t - 365 * (min t 1459 / 365) = 365 → min t 1459 / 365 = 3 ∧ t = 1460) := by
    clear hyear hcycle hskip
    omega
  obtain ⟨hs4, hle, hn, hlast⟩ := hs
  refine ⟨c, q, min t 1459 / 365, t - 365 * (min t 1459 / 365), hc, hq, hs4, hn, ?_, hyear, ?_⟩
  · rw [hcycle, Nat.add_assoc _ (365 * _), Nat.add_sub_cancel' hle]
  · intro h
    exact ⟨(hlast h).1, fun h24 => hskip h24 (hlast h).2⟩

/-- The days of an era before a year of it. -/
lemma daysBefore_eq {c q s : ℕ} (hq : q < 25) (hs : s < 4) :
    365 * (100 * c + 4 * q + s) + (100 * c + 4 * q + s) / 4 - (100 * c + 4 * q + s) / 100
      = 36524 * c + 1461 * q + 365 * s := by
  have hcycles : (100 * c + 4 * q + s) / 4 = 25 * c + q := by omega
  have hcenturies : (100 * c + 4 * q + s) / 100 = c := by omega
  rw [hcycles, hcenturies]
  omega

lemma isLeapYear_iff {y : Int} :
    isLeapYear y = true ↔ y % 4 = 0 ∧ (y % 100 ≠ 0 ∨ y % 400 = 0) := by
  simp [isLeapYear]

/-- A year that begins in March has a day after its 365th only if its February has 29 days. -/
lemma isLeapYear_of_last {era : Int} {c q s : ℕ} (hq : q < 25) (hs : s = 3)
    (hlast : q = 24 → c = 3) :
    isLeapYear (((100 * c + 4 * q + s : ℕ) : Int) + era * 400 + 1) = true := by
  rw [isLeapYear_iff]
  refine ⟨by omega, ?_⟩
  rcases Nat.lt_or_ge q 24 with h | h
  · left
    omega
  · right
    have hc : c = 3 := hlast (by omega)
    omega

/-! ### The date of a day of a year -/

/-- A day of a year that begins in March has a date, and lies in the next calendar year from its
307th day on. -/
lemma date_of_dayOfYear {n k : ℕ} (hn : n ≤ 365) (hk : k = (5 * n + 2) / 153) {y : Int}
    (hleap : n = 365 → isLeapYear (y + 1) = true) :
    let month := if k < 10 then k + 3 else k - 9
    1 ≤ month ∧ month ≤ 12 ∧
      n - (153 * k + 2) / 5 + 1 ≤ daysInMonth (y + if month ≤ 2 then 1 else 0) month ∧
      (month ≤ 2 ↔ 306 ≤ n) := by
  have hle : k ≤ 11 := by omega
  rcases Nat.lt_or_eq_of_le hle with hlt | rfl
  · interval_cases k <;> simp [daysInMonth] <;> omega
  · by_cases h : n = 365
    · simp [daysInMonth, hleap h, h]
    · simp [daysInMonth]
      split_ifs <;> omega

/-! ### The range of the calendar -/

/-- The first second of the first year. -/
def firstSecond : Int := -8334601228800

/-- The last second of the last year. -/
def lastSecond : Int := 8210266876799

/-- The days of the calendar lie in its years. -/
lemma year_bounds {era : Int} {c q s n : ℕ} (hc : c < 4) (hq : q < 25) (hs : s < 4) (hn : n ≤ 365)
    (hfirst : firstSecond / 86400 + 719468
      ≤ 146097 * era + 36524 * c + 1461 * q + 365 * s + n)
    (hlast : 146097 * era + 36524 * c + 1461 * q + 365 * s + n
      ≤ lastSecond / 86400 + 719468) :
    minYear ≤ 400 * era + 100 * c + 4 * q + s + (if 306 ≤ n then 1 else 0) ∧
      400 * era + 100 * c + 4 * q + s + (if 306 ≤ n then 1 else 0) ≤ maxYear := by
  unfold firstSecond at hfirst
  unfold lastSecond at hlast
  unfold minYear maxYear
  have hera : -656 ≤ era ∧ era ≤ 655 := by omega
  refine ⟨?_, ?_⟩
  · split_ifs <;> interval_cases c <;> omega
  · split_ifs <;> interval_cases c <;> omega

/-- A clock within the calendar shows an instant that exists. -/
theorem valid_ofUnix {seconds : Int} {nanoseconds : ℕ} (hfirst : firstSecond ≤ seconds)
    (hlast : seconds ≤ lastSecond) (hnano : nanoseconds < 1000000000) :
    (Instant.ofUnix seconds nanoseconds).Valid := by
  obtain ⟨era, d, hd, hdays⟩ :
      ∃ (era : Int) (d : ℕ), d < 146097 ∧ seconds / 86400 + 719468 = 146097 * era + d :=
    ⟨(seconds / 86400 + 719468) / 146097, ((seconds / 86400 + 719468) % 146097).toNat, by omega⟩
  have hera : (seconds / 86400 + 719468) / 146097 = era := by omega
  have hday : ((seconds / 86400 + 719468) % 146097).toNat = d := by omega
  obtain ⟨c, q, s, n, hc, hq, hs, hn, hdate, hyear, hlastDay⟩ := exists_year hd
  have hrest : d - (36524 * c + 1461 * q + 365 * s) = n := by omega
  have hleap : n = 365 →
      isLeapYear (((100 * c + 4 * q + s : ℕ) : Int) + era * 400 + 1) = true :=
    fun h => isLeapYear_of_last hq (hlastDay h).1 (hlastDay h).2
  obtain ⟨hmonth, hmonth', hday', hnext⟩ := date_of_dayOfYear hn rfl hleap
  have hbounds := @year_bounds era c q s n hc hq hs hn (by omega) (by omega)
  unfold Instant.ofUnix Instant.Valid
  simp only [hera, hday, hyear, daysBefore_eq hq hs, hrest]
  refine ⟨?_, ?_, hmonth, hmonth', by omega, hday', ?_, ?_, ?_, hnano⟩
  · simp only [hnext]
    push_cast
    omega
  · simp only [hnext]
    push_cast
    omega
  · omega
  · omega
  · omega

end Tidemark.Time
