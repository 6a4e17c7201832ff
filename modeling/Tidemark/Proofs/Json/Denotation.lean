import Mathlib.Data.List.Basic
import Mathlib.Data.List.TakeWhile
import Mathlib.Tactic.Ring
import Tidemark.Proofs.Json.Literal

/-!
# The number that a text denotes

The text of an integer denotes the integer.  The text of a double denotes the decimal number that
was found for the double (`Binary64.shown`), whichever way its digits are laid out: the zeros at the
end of the significand are dropped, and the point or the exponent makes up for them.  So the literal
of an integer that fits 64 bits is written again as a literal of the same integer (`shown_of_fits`).
-/

namespace Tidemark

namespace Json

namespace Scan

/-! ### Laying out digits -/

/-- Digits that do not start with a zero. -/
structure Leading (ds : List Char) : Prop where
  digit : ∀ c ∈ ds, c.isDigit = true
  head : ds.head? ≠ some '0'

section Layout

variable {ds : List Char} (hds : Leading ds) (negative : Bool) {lead : Int}

include hds

/-- Behind a point, zeros move the digits to their places. -/
lemma denotes_fraction (hne : ds ≠ []) (k : Nat) :
    Denotes (signText negative ++ ['0'] ++ '.' :: (List.replicate k '0' ++ ds))
      (signFactor negative * (ofDigits (ds.map digitValue) * 10 ^ (-(k + ds.length : ℤ)))) := by
  have hzero : Whole ['0'] :=
    ⟨List.forall_mem_singleton.2 rfl, List.cons_ne_nil '0' [], fun _ => rfl⟩
  have hdigit : ∀ c ∈ List.replicate k '0' ++ ds, c.isDigit = true := by
    intro c hc
    rcases List.mem_append.1 hc with hc | hc
    · rw [List.eq_of_mem_replicate hc]
      decide
    · exact hds.digit c hc
  have hfraction := fractionPart_point hdigit (by simp [hne]) endsDigits_nil
  rw [List.append_nil] at hfraction
  have hpoint : EndsDigits ('.' :: (List.replicate k '0' ++ ds)) := endsDigits_cons rfl _
  refine ⟨_, literal_parts negative hzero hpoint hfraction rfl, ?_⟩
  have hvalue : ofDigits (['0'].map digitValue ++ (List.replicate k '0' ++ ds).map digitValue)
      = ofDigits (ds.map digitValue) := by
    rw [List.map_append, List.map_replicate, List.map_singleton, List.singleton_append]
    exact ofDigits_zeros_append (k + 1) _
  simp only [Literal.value, Option.getD_some, Option.getD_none, hvalue, List.length_map,
    List.length_append, List.length_replicate, zero_sub]
  push_cast
  rfl

/-- Before a point, zeros behind the digits move these to their places. -/
lemma denotes_whole (k : Nat) (hk : ds = [] → k = 1) :
    Denotes (signText negative ++ (ds ++ List.replicate k '0') ++ ['.', '0'])
      (signFactor negative * (ofDigits (ds.map digitValue) * 10 ^ (k : ℤ))) := by
  have hwhole : Whole (ds ++ List.replicate k '0') := by
    refine ⟨?_, ?_, ?_⟩
    · intro c hc
      rcases List.mem_append.1 hc with hc | hc
      · exact hds.digit c hc
      · rw [List.eq_of_mem_replicate hc]
        decide
    · rcases eq_or_ne ds [] with rfl | hne
      · rw [hk rfl]
        decide
      · exact List.append_ne_nil_of_left_ne_nil hne _
    · rcases eq_or_ne ds [] with rfl | hne
      · rw [hk rfl]
        exact fun _ => rfl
      · rw [List.head?_append_of_ne_nil _ hne]
        exact fun h => absurd h hds.head
  have hfraction : fractionPart ['.', '0'] = .ok (some (['0'].map digitValue), []) := rfl
  have hpoint : EndsDigits ['.', '0'] := endsDigits_cons rfl _
  refine ⟨_, literal_parts negative hwhole hpoint hfraction rfl, ?_⟩
  have hvalue : ofDigits ((ds ++ List.replicate k '0').map digitValue ++ ['0'].map digitValue)
      = ofDigits (ds.map digitValue) * 10 ^ (k + 1) := by
    rw [List.map_append, List.map_replicate, List.append_assoc]
    have hzeros : List.replicate k (digitValue '0') ++ ['0'].map digitValue
        = List.replicate (k + 1) 0 := List.replicate_succ'.symm
    rw [hzeros, ofDigits_append_zeros]
  have hplaces : (0 : ℤ) - (['0'].map digitValue).length = -1 := rfl
  simp only [Literal.value, Option.getD_some, Option.getD_none, hvalue, hplaces]
  push_cast
  rw [zpow_neg_one, pow_succ, zpow_natCast, mul_assoc, mul_assoc, mul_inv_cancel₀ (by norm_num),
    mul_one]

/-- Digits with a point between them. -/
lemma denotes_split {k : Nat} (hk : k ≠ 0) (hlength : k < ds.length) :
    Denotes (signText negative ++ ds.take k ++ '.' :: ds.drop k)
      (signFactor negative * (ofDigits (ds.map digitValue) * 10 ^ ((k : ℤ) - ds.length))) := by
  have hne : ds ≠ [] := by
    rintro rfl
    exact absurd hlength (Nat.not_lt_zero k)
  have hwhole : Whole (ds.take k) := by
    refine ⟨fun c hc => hds.digit c (List.mem_of_mem_take hc), ?_, ?_⟩
    · rw [ne_eq, List.take_eq_nil_iff, not_or]
      exact ⟨hk, hne⟩
    · rw [List.head?_take, if_neg hk]
      exact fun h => absurd h hds.head
  have hdrop : ds.drop k ≠ [] := by
    rw [ne_eq, List.drop_eq_nil_iff]
    omega
  have hfraction := fractionPart_point
    (fun c hc => hds.digit c (List.mem_of_mem_drop hc)) hdrop endsDigits_nil
  rw [List.append_nil] at hfraction
  have hpoint : EndsDigits ('.' :: ds.drop k) := endsDigits_cons rfl _
  refine ⟨_, literal_parts negative hwhole hpoint hfraction rfl, ?_⟩
  have hparts : (ds.take k).map digitValue ++ (ds.drop k).map digitValue = ds.map digitValue := by
    rw [← List.map_append, List.take_append_drop]
  have hplaces : (0 : ℤ) - ((ds.drop k).map digitValue).length = k - ds.length := by
    rw [List.length_map, List.length_drop]
    omega
  simp only [Literal.value, Option.getD_some, Option.getD_none, hparts, hplaces]

/-- Digits with a point behind the first of them, and an exponent. -/
lemma denotes_scientific (hne : ds ≠ []) (lead : Int) :
    Denotes (signText negative ++ Number.scientific ds lead)
      (signFactor negative * (ofDigits (ds.map digitValue) * 10 ^ (lead + 1 - ds.length))) := by
  obtain ⟨d, ds, rfl⟩ := List.exists_cons_of_ne_nil hne
  have hwhole : Whole [d] := by
    refine ⟨fun c hc => hds.digit c (List.mem_cons.2 (.inl (List.mem_singleton.1 hc))),
      List.cons_ne_nil d [], fun h => ?_⟩
    exact absurd h hds.head
  have hexponent := exponentPart_signed lead
  have hletter : EndsDigits
      (['e', if lead < 0 then '-' else '+'] ++ Nat.toDigits 10 lead.natAbs) :=
    endsDigits_cons rfl _
  cases ds with
  | nil =>
    have htext : Number.scientific [d] lead
        = [d] ++ (['e', if lead < 0 then '-' else '+'] ++ Nat.toDigits 10 lead.natAbs) := rfl
    rw [htext, ← List.append_assoc]
    refine ⟨_, literal_parts negative hwhole hletter rfl hexponent, ?_⟩
    simp [Literal.value]
  | cons d' ds =>
    have hfraction := fractionPart_point
      (fun c hc => hds.digit c (List.mem_cons_of_mem d hc)) (List.cons_ne_nil d' ds) hletter
    have htext : Number.scientific (d :: d' :: ds) lead = [d] ++ '.' :: (d' :: ds
        ++ (['e', if lead < 0 then '-' else '+'] ++ Nat.toDigits 10 lead.natAbs)) := by
      change d :: '.' :: d' :: ds ++ _ ++ _ = _
      simp
    rw [htext, ← List.append_assoc]
    refine ⟨_, literal_parts negative hwhole (endsDigits_cons rfl _) hfraction hexponent, ?_⟩
    have hplaces : lead - (((d' :: ds).map digitValue).length : ℤ)
        = lead + 1 - ((d :: d' :: ds).length : ℤ) := by
      simp only [List.length_map, List.length_cons]
      omega
    simp only [Literal.value, Option.getD_some, hplaces]
    rfl

/-- Digits that are laid out without an exponent. -/
lemma denotes_positional {lead : Int} (hlead : ds = [] → lead = 0) :
    Denotes (signText negative ++ Number.positional ds lead)
      (signFactor negative * (ofDigits (ds.map digitValue) * 10 ^ (lead + 1 - ds.length))) := by
  by_cases hneg : lead < 0
  · have hne : ds ≠ [] := fun h => absurd (hlead h) (by omega)
    have htext : signText negative ++ Number.positional ds lead = signText negative ++ ['0']
        ++ '.' :: (List.replicate ((-lead).toNat - 1) '0' ++ ds) := by
      simp [Number.positional, hneg]
    have hplaces : -((((-lead).toNat - 1 : ℕ) : ℤ) + ds.length) = lead + 1 - ds.length := by omega
    rw [htext, ← hplaces]
    exact denotes_fraction hds negative hne _
  · by_cases hlength : ds.length ≤ lead.toNat + 1
    · have htext : signText negative ++ Number.positional ds lead = signText negative
          ++ (ds ++ List.replicate (lead.toNat + 1 - ds.length) '0') ++ ['.', '0'] := by
        simp [Number.positional, hneg, hlength]
      have hplaces : ((lead.toNat + 1 - ds.length : ℕ) : ℤ) = lead + 1 - ds.length := by omega
      rw [htext, ← hplaces]
      refine denotes_whole hds negative _ ?_
      rintro rfl
      rw [hlead rfl]
      rfl
    · have htext : signText negative ++ Number.positional ds lead = signText negative
          ++ ds.take (lead.toNat + 1) ++ '.' :: ds.drop (lead.toNat + 1) := by
        simp [Number.positional, hneg, hlength]
      have hplaces : ((lead.toNat + 1 : ℕ) : ℤ) - ds.length = lead + 1 - ds.length := by omega
      rw [htext, ← hplaces]
      exact denotes_split hds negative (Nat.succ_ne_zero _) (not_le.1 hlength)

end Layout

/-! ### Significant digits -/

/-- The zeros at the end of a decimal text come behind its significant digits. -/
lemma exists_toDigits_eq_append (n : Nat) :
    ∃ k, Nat.toDigits 10 n = Number.significantDigits n ++ List.replicate k '0' := by
  have hsplit := List.takeWhile_append_dropWhile (p := (· = '0')) (l := (Nat.toDigits 10 n).reverse)
  refine ⟨((Nat.toDigits 10 n).reverse.takeWhile (· = '0')).length, ?_⟩
  have hzeros : (Nat.toDigits 10 n).reverse.takeWhile (· = '0')
      = List.replicate ((Nat.toDigits 10 n).reverse.takeWhile (· = '0')).length '0' := by
    refine List.eq_replicate_of_mem fun c hc => ?_
    simpa using List.mem_takeWhile_imp hc
  rw [Number.significantDigits, ← List.reverse_replicate, ← hzeros, ← List.reverse_append, hsplit,
    List.reverse_reverse]

/-- Only zero has no significant digits. -/
lemma significantDigits_ne_nil {n : Nat} (hn : 0 < n) : Number.significantDigits n ≠ [] := by
  intro hnil
  obtain ⟨k, hk⟩ := exists_toDigits_eq_append n
  obtain ⟨c, cs, hhead, hc⟩ := exists_toDigits_eq_cons hn
  rw [hnil, List.nil_append] at hk
  exact hc (List.eq_of_mem_replicate (hk ▸ hhead ▸ List.mem_cons_self))

/-- Significant digits do not start with a zero. -/
lemma leading_significantDigits (n : Nat) : Leading (Number.significantDigits n) := by
  obtain ⟨k, hk⟩ := exists_toDigits_eq_append n
  refine ⟨fun c hc => ?_, fun hzero => ?_⟩
  · exact isDigit_of_mem_toDigits (n := n) (hk ▸ List.mem_append_left _ hc)
  · rcases Nat.eq_zero_or_pos n with rfl | hn
    · cases hzero
    · obtain ⟨c, cs, hhead, hc⟩ := exists_toDigits_eq_cons hn
      have hfirst : (Number.significantDigits n ++ List.replicate k '0').head?
          = (Number.significantDigits n).head? :=
        List.head?_append_of_ne_nil _ (significantDigits_ne_nil hn)
      rw [← hk, hhead, hzero] at hfirst
      exact hc (Option.some.inj hfirst)

/-- The value of a number is that of its significant digits, moved by as many places as there are
further digits. -/
lemma exists_eq_significantDigits (n : Nat) : ∃ k,
    Number.Shortest.digitCount n = (Number.significantDigits n).length + k ∧
      n = ofDigits ((Number.significantDigits n).map digitValue) * 10 ^ k := by
  obtain ⟨k, hk⟩ := exists_toDigits_eq_append n
  refine ⟨k, ?_, ?_⟩
  · rw [Number.Shortest.digitCount, hk, List.length_append, List.length_replicate]
  · have hzeros : (List.replicate k '0').map digitValue = List.replicate k 0 := List.map_replicate
    rw [← ofDigits_append_zeros, ← hzeros, ← List.map_append, ← hk, ofDigits_toDigits]

end Scan

/-! ### Numbers -/

end Json

namespace Number

open Json Json.Scan

namespace Shortest

/-- A point that is found on a grid is not zero. -/
lemma onGrid_ne_zero {i : Interval} {e : Int} {g : Nat} (h : onGrid i e = some g) : g ≠ 0 := by
  unfold onGrid at h
  dsimp only at h
  split at h
  next hbelow _ =>
    have hne : (overTen i.value i.denominator e).1 / (overTen i.value i.denominator e).2 ≠ 0 := by
      simpa using (Bool.and_eq_true_iff.1 hbelow).2
    split at h
    · exact Option.some.inj h ▸ hne
    · exact Option.some.inj h ▸ Nat.succ_ne_zero _
  next hbelow _ =>
    have hne : (overTen i.value i.denominator e).1 / (overTen i.value i.denominator e).2 ≠ 0 := by
      simpa using (Bool.and_eq_true_iff.1 hbelow).2
    exact Option.some.inj h ▸ hne
  next => exact Option.some.inj h ▸ Nat.succ_ne_zero _
  next => cases h

/-- The decimal zero is found without an exponent. -/
lemma exponent_search {i : Interval} {lead : Int} {tries digits : Nat}
    (h : (search i lead tries digits).significand = 0) :
    (search i lead tries digits).exponent = 0 := by
  induction tries generalizing digits with
  | zero => rfl
  | succ tries ih =>
    simp only [search] at h ⊢
    cases hgrid : onGrid i (lead - (digits : Int) + 1) with
    | some g =>
      rw [hgrid] at h
      exact absurd h (onGrid_ne_zero hgrid)
    | none =>
      rw [hgrid] at h
      exact ih h

end Shortest

/-- The number that a magnitude is written as. -/
def Magnitude.shown (x : Magnitude) : ℚ :=
  if x.mantissa = 0 then 0
  else (Shortest.decimal x).significand * 10 ^ (Shortest.decimal x).exponent

/-- The number that a double is written as. -/
def Binary64.shown (x : Binary64) : ℚ :=
  signFactor x.negative * x.magnitude.shown

/-- The text of a magnitude, with or without a sign, denotes the number that it is written as. -/
lemma Magnitude.denotes_render (negative : Bool) (x : Magnitude) :
    Denotes (signText negative ++ x.render realLayout) (signFactor negative * x.shown) := by
  unfold render shown
  split
  · have hempty : Leading [] := ⟨nofun, nofun⟩
    have hzero := denotes_whole hempty negative 1 fun _ => rfl
    simpa [ofDigits] using hzero
  · obtain ⟨k, hcount, hvalue⟩ := exists_eq_significantDigits (Shortest.decimal x).significand
    have hleading := leading_significantDigits (Shortest.decimal x).significand
    have hnil : significantDigits (Shortest.decimal x).significand = [] →
        (Shortest.decimal x).exponent
          + (Shortest.digitCount (Shortest.decimal x).significand : Int) - 1 = 0 := by
      intro hnil
      have hzero : (Shortest.decimal x).significand = 0 := by
        by_contra hne
        exact significantDigits_ne_nil (Nat.pos_of_ne_zero hne) hnil
      have hexponent : (Shortest.decimal x).exponent = 0 := Shortest.exponent_search hzero
      rw [hexponent, hzero]
      rfl
    -- the zeros that were dropped are made up for by the place of the leading digit
    have hplaces : ((Shortest.decimal x).significand : ℚ) * 10 ^ (Shortest.decimal x).exponent
        = ofDigits ((significantDigits (Shortest.decimal x).significand).map digitValue)
          * 10 ^ ((Shortest.decimal x).exponent
            + (Shortest.digitCount (Shortest.decimal x).significand : Int) - 1 + 1
            - ((significantDigits (Shortest.decimal x).significand).length : ℤ)) := by
      have hshift : (Shortest.decimal x).exponent
            + (Shortest.digitCount (Shortest.decimal x).significand : Int) - 1 + 1
            - ((significantDigits (Shortest.decimal x).significand).length : ℤ)
          = k + (Shortest.decimal x).exponent := by omega
      rw [hshift, zpow_add₀ (by norm_num), zpow_natCast, ← mul_assoc]
      congr 1
      exact_mod_cast hvalue
    rw [hplaces]
    dsimp only
    split
    · exact denotes_positional hleading negative hnil
    next hlayout =>
      refine denotes_scientific hleading negative (fun h => hlayout ?_) _
      rw [hnil h]
      decide

/-- The text of a double denotes the number that it is written as. -/
lemma Binary64.denotes_render (x : Binary64) :
    Denotes (x.render realLayout).toList x.shown := by
  have htext : (x.render realLayout).toList
      = signText x.negative ++ x.magnitude.render realLayout := by
    rw [render, String.toList_ofList, signText]
    split <;> rfl
  rw [htext]
  exact Magnitude.denotes_render x.negative x.magnitude

end Number

namespace Json

open Scan

/-- The number that a JSON number is written as. -/
def Numeral.shown : Numeral → ℚ
  | .integer n => n
  | .real x => x.shown

/-- **The text of a JSON number denotes the number that it is written as.** -/
theorem Numeral.denotes_render (n : Numeral) : Denotes n.render n.shown := by
  cases n with
  | integer n =>
    have hscan := literal_renderInt n endsNumber_nil
    rw [List.append_nil] at hscan
    refine ⟨_, hscan, ?_⟩
    rw [Literal.value_of_isInteger ⟨rfl, rfl⟩, shown, Literal.integer, ofDigits_toDigits]
    congr 1
    by_cases hn : n < 0
    · rw [if_pos (decide_eq_true hn)]
      omega
    · rw [if_neg (by simpa using hn)]
      omega
  | real x => exact x.denotes_render

/-! ### Integer literals -/

namespace Scan.Literal

/-- An integer that fits is written as itself again. -/
lemma shown_of_fits {l : Literal} (h : l.IsInteger) (hfits : l.Fits) {n : Numeral}
    (hn : l.numeral? = some n) : n.shown = l.integer := by
  by_cases hzero : l.negative = true ∧ ofDigits l.whole = 0
  · rw [numeral?_of_negative_zero h hzero.1 hzero.2] at hn
    obtain rfl := Option.some.inj hn
    have hinteger : l.integer = 0 := by
      rw [integer, if_pos hzero.1, hzero.2]
      rfl
    have hshown : Number.Magnitude.zero.shown = 0 := if_pos rfl
    rw [hinteger, Numeral.shown, Number.Binary64.shown, hshown, mul_zero, Int.cast_zero]
  · rw [numeral?_of_fits h hfits hzero] at hn
    obtain rfl := Option.some.inj hn
    rfl

end Scan.Literal

end Json

end Tidemark
