import Mathlib.Algebra.Order.Field.Basic
import Mathlib.Algebra.Order.Field.Power
import Mathlib.Algebra.Order.Field.Rat
import Mathlib.Data.Nat.Cast.Order.Field
import Mathlib.Tactic.Positivity
import Mathlib.Tactic.Ring
import Tidemark.Number.Shortest

/-!
# The size of a shortest decimal

The digits of a magnitude are searched on grids of 1, 2, … 17 digits.  The magnitude lies below the
power of ten above its leading digit (`lt_leadingExponent`), so that its neighbours on a grid have
no more digits than the grid, or are the power of ten itself; the digits that are found make a
number of `10 ^ 17` at most (`significand_decimal_le`).
-/

namespace Tidemark.Number.Shortest

/-- A number lies below the power of ten of as many places as it has digits. -/
lemma lt_digitCount (n : Nat) : n < 10 ^ digitCount n :=
  (Nat.length_toDigits_le_iff (by decide) Nat.length_toDigits_pos).1 le_rfl

/-- A positive number has as many digits as its leading place says. -/
lemma digitCount_le {n : Nat} (hn : 0 < n) : 10 ^ (digitCount n - 1) ≤ n := by
  by_contra hlt
  rw [not_le] at hlt
  rcases Nat.eq_zero_or_pos (digitCount n - 1) with hzero | hpos
  · rw [hzero, pow_zero] at hlt
    omega
  · have hle : digitCount n ≤ digitCount n - 1 :=
      (Nat.length_toDigits_le_iff (by decide) hpos).2 hlt
    omega

/-- A ratio lies below the power of ten above its leading digit. -/
lemma lt_leadingExponent (n : Nat) {d : Nat} (hd : 0 < d) :
    (n : ℚ) / d < 10 ^ (leadingExponent n d + 1) := by
  have hd' : (0 : ℚ) < d := by exact_mod_cast hd
  unfold leadingExponent
  split
  · have hlt : n < 10 ^ digitCount (n / d) * d :=
      (Nat.div_lt_iff_lt_mul hd).1 (lt_digitCount (n / d))
    rw [sub_add_cancel, zpow_natCast, div_lt_iff₀ hd']
    exact_mod_cast hlt
  next hlarge =>
    rcases Nat.eq_zero_or_pos n with rfl | hn
    · rw [Nat.cast_zero, zero_div]
      positivity
    · -- the places are counted on the reciprocal, rounded down below it
      have hquotient : (d + n - 1) / n * n ≤ d + n - 1 := Nat.div_mul_le_self _ _
      have htwo : 2 ≤ (d + n - 1) / n := (Nat.le_div_iff_mul_le hn).2 (by omega)
      have hlt : ((d + n - 1) / n - 1) * n < d := by
        rw [Nat.sub_mul]
        omega
      have hplaces := digitCount_le (n := (d + n - 1) / n - 1) (by omega)
      have hpos : 0 < digitCount ((d + n - 1) / n - 1) := Nat.length_toDigits_pos
      have hpow : 10 ^ (digitCount ((d + n - 1) / n - 1) - 1) * n < d :=
        (Nat.mul_le_mul_right n hplaces).trans_lt hlt
      have hexponent : -(digitCount ((d + n - 1) / n - 1) : ℤ) + 1
          = -((digitCount ((d + n - 1) / n - 1) - 1 : ℕ) : ℤ) := by
        omega
      rw [hexponent, zpow_neg, zpow_natCast, div_lt_iff₀ hd', inv_mul_eq_div,
        lt_div_iff₀ (by positivity), mul_comm]
      exact_mod_cast hpow

/-- A ratio over a power of ten. -/
lemma overTen_ratio (n d : Nat) (e : Int) :
    ((overTen n d e).1 : ℚ) / (overTen n d e).2 = n / d / 10 ^ e := by
  unfold overTen
  split
  next he =>
    have hnat : (10 : ℚ) ^ e = 10 ^ e.toNat := by
      rw [← zpow_natCast, Int.toNat_of_nonneg he]
    rw [hnat, div_div, Nat.cast_mul, Nat.pow_eq, Nat.cast_pow, Nat.cast_ofNat]
  next he =>
    have hnat : (10 : ℚ) ^ e = (10 ^ (-e).toNat)⁻¹ := by
      rw [← zpow_natCast, ← zpow_neg, Int.toNat_of_nonneg (by omega), neg_neg]
    rw [hnat, div_inv_eq_mul, div_mul_eq_mul_div, Nat.cast_mul, Nat.pow_eq, Nat.cast_pow,
      Nat.cast_ofNat]

/-- The neighbours of a number on a grid of some digits are at most the power of ten of as many
places. -/
lemma onGrid_le {i : Interval} (hd : 0 < i.denominator) {digits g : Nat}
    (h : onGrid i (leadingExponent i.value i.denominator - digits + 1) = some g) :
    g ≤ 10 ^ digits := by
  set e : Int := leadingExponent i.value i.denominator - digits + 1 with he
  have hbelow : (overTen i.value i.denominator e).1 / (overTen i.value i.denominator e).2
      < 10 ^ digits := by
    have hfloor : (((overTen i.value i.denominator e).1 / (overTen i.value i.denominator e).2 : ℕ)
        : ℚ) ≤ (i.value : ℚ) / i.denominator / 10 ^ e := by
      rw [← overTen_ratio]
      exact Nat.cast_div_le
    have hratio : (i.value : ℚ) / i.denominator / 10 ^ e < 10 ^ digits := by
      rw [div_lt_iff₀ (by positivity), ← zpow_natCast, ← zpow_add₀ (by norm_num)]
      have hexponent : (digits : ℤ) + e = leadingExponent i.value i.denominator + 1 := by
        rw [he]
        ring
      rw [hexponent]
      exact lt_leadingExponent i.value hd
    exact_mod_cast hfloor.trans_lt hratio
  unfold onGrid at h
  dsimp only at h
  split at h
  · split at h
    · exact Option.some.inj h ▸ hbelow.le
    · exact Option.some.inj h ▸ hbelow
  · exact Option.some.inj h ▸ hbelow.le
  · exact Option.some.inj h ▸ hbelow
  · cases h

/-- What is found on grids of 17 digits at most is `10 ^ 17` at most. -/
lemma significand_search_le {i : Interval} (hd : 0 < i.denominator) (tries digits : Nat)
    (h : digits + tries ≤ 18) :
    (search i (leadingExponent i.value i.denominator) tries digits).significand ≤ 10 ^ 17 := by
  induction tries generalizing digits with
  | zero => exact Nat.zero_le _
  | succ tries ih =>
    simp only [search]
    cases hgrid : onGrid i (leadingExponent i.value i.denominator - (digits : Int) + 1) with
    | some g => exact (onGrid_le hd hgrid).trans (Nat.pow_le_pow_right (by decide) (by omega))
    | none => exact ih (digits + 1) (by omega)

/-- **A shortest decimal has 17 digits at most**, or is a power of ten. -/
theorem significand_decimal_le (x : Magnitude) : (decimal x).significand ≤ 10 ^ 17 := by
  have hd : 0 < (interval x).denominator := by
    simp only [interval, Magnitude.scaleRatio]
    split
    · exact Nat.succ_pos 3
    · exact Nat.mul_pos (by decide) (Nat.pow_pos (by decide))
  exact significand_search_le hd 17 1 (by decide)

end Tidemark.Number.Shortest
