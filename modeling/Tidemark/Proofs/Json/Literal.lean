import Mathlib.Algebra.Order.Field.Rat
import Mathlib.Tactic.Ring
import Tidemark.Proofs.Json.Integer
import Tidemark.Proofs.Result

/-!
# Literals of numbers

A literal is written for a number (`Literal.value`), and a text denotes the number whose literal it
is (`Denotes`).  The parts of a literal are scanned one by one (`literal_parts`), and nothing else
than the characters of numbers is scanned (`Denotes.isNumeric`).  The literal of an integer is read
as this integer if it fits 64 bits, with a sign or without, and as a double otherwise; so is the
zero with a sign.
-/

namespace Tidemark

namespace Json

namespace Scan

/-- The factor that a sign stands for. -/
def signFactor (negative : Bool) : ℚ :=
  if negative then -1 else 1

/-- The number that a literal is written for. -/
def Literal.value (l : Literal) : ℚ :=
  signFactor l.negative * (ofDigits (l.whole ++ l.fraction.getD [])
    * 10 ^ (l.exponent.getD 0 - (l.fraction.getD []).length))

/-- A literal of an integer has no fraction and no exponent. -/
def Literal.IsInteger (l : Literal) : Prop :=
  l.fraction = none ∧ l.exponent = none

/-- The integer that the digits before the point and the sign make. -/
def Literal.integer (l : Literal) : Int :=
  if l.negative then -(ofDigits l.whole : Int) else ofDigits l.whole

/-- An integer is written for itself. -/
lemma Literal.value_of_isInteger {l : Literal} (h : l.IsInteger) : l.value = l.integer := by
  obtain ⟨hfraction, hexponent⟩ := h
  rw [value, hfraction, hexponent, integer, signFactor]
  split <;> simp

/-- A text is a literal of a number. -/
def Denotes (cs : List Char) (x : ℚ) : Prop :=
  ∃ l, literal cs = .ok (l, []) ∧ l.value = x

/-- A text denotes one number at most. -/
lemma Denotes.unique {cs : List Char} {x y : ℚ} (hx : Denotes cs x) (hy : Denotes cs y) :
    x = y := by
  obtain ⟨l, hl, rfl⟩ := hx
  obtain ⟨l', hl', rfl⟩ := hy
  cases hl.symm.trans hl'
  rfl

/-! ### Values of digits -/

lemma foldl_digits (ds : List Nat) (n : Nat) :
    ds.foldl (fun n d => 10 * n + d) n = n * 10 ^ ds.length + ofDigits ds := by
  induction ds generalizing n with
  | nil => simp [ofDigits]
  | cons d ds ih =>
    have hvalue : ofDigits (d :: ds) = (10 * 0 + d) * 10 ^ ds.length + ofDigits ds :=
      ih (10 * 0 + d)
    rw [List.foldl_cons, ih, hvalue, List.length_cons]
    ring

/-- Digits behind others count as much less as there are of them. -/
lemma ofDigits_append (ds es : List Nat) :
    ofDigits (ds ++ es) = ofDigits ds * 10 ^ es.length + ofDigits es := by
  rw [ofDigits, List.foldl_append, foldl_digits]
  rfl

/-- Zeros at the end move a value by as many places. -/
lemma ofDigits_append_zeros (ds : List Nat) (k : Nat) :
    ofDigits (ds ++ List.replicate k 0) = ofDigits ds * 10 ^ k := by
  have hzeros : ofDigits (List.replicate k 0) = 0 := by
    induction k with
    | zero => rfl
    | succ k ih => rw [List.replicate_succ, ofDigits, List.foldl_cons, ← ofDigits, ih]
  rw [ofDigits_append, List.length_replicate, hzeros, Nat.add_zero]

/-- Zeros at the front count nothing. -/
lemma ofDigits_zeros_append (k : Nat) (ds : List Nat) :
    ofDigits (List.replicate k 0 ++ ds) = ofDigits ds := by
  induction k with
  | zero => rfl
  | succ k ih =>
    rw [List.replicate_succ, List.cons_append, ofDigits, List.foldl_cons, ← ofDigits, ih]

/-! ### Scanning the parts of a number -/

lemma someDigits_append {ds rest : List Char} (hds : ∀ c ∈ ds, c.isDigit = true) (hne : ds ≠ [])
    (hrest : EndsDigits rest) : someDigits (ds ++ rest) = .ok (ds.map digitValue, rest) := by
  obtain ⟨d, ds, rfl⟩ := List.exists_cons_of_ne_nil hne
  rw [someDigits, digits_append hds hrest]
  rfl

/-- The text of a sign. -/
def signText (negative : Bool) : List Char :=
  if negative then ['-'] else []

/-- A number is scanned part by part. -/
lemma literal_parts (negative : Bool) {ds rest rest' : List Char} (hds : Whole ds)
    (hrest : EndsDigits rest) {f : Option (List Nat)} (hf : fractionPart rest = .ok (f, rest'))
    {e : Option Int} (he : exponentPart rest' = .ok (e, [])) :
    literal (signText negative ++ ds ++ rest) = .ok (⟨negative, ds.map digitValue, f, e⟩, []) := by
  have hwhole := wholePart_append hds hrest
  obtain ⟨hdigit, hne, -⟩ := hds
  obtain ⟨d, ds, rfl⟩ := List.exists_cons_of_ne_nil hne
  have hminus : d ≠ '-' := by
    rintro rfl
    exact absurd (hdigit '-' List.mem_cons_self) (by decide)
  rw [List.cons_append] at hwhole
  cases negative <;>
    simp [signText, literal, hminus, hwhole, hf, he, bind, Except.bind, pure, Except.pure]

/-- A point with digits behind it is scanned as a fraction. -/
lemma fractionPart_point {ds rest : List Char} (hds : ∀ c ∈ ds, c.isDigit = true) (hne : ds ≠ [])
    (hrest : EndsDigits rest) :
    fractionPart ('.' :: (ds ++ rest)) = .ok (some (ds.map digitValue), rest) := by
  rw [fractionPart, someDigits_append hds hne hrest]
  rfl

/-- A signed exponent is scanned as its number. -/
lemma exponentPart_signed (e : Int) :
    exponentPart (['e', if e < 0 then '-' else '+'] ++ Nat.toDigits 10 e.natAbs)
      = .ok (some e, []) := by
  have hdigits : someDigits (Nat.toDigits 10 e.natAbs)
      = .ok ((Nat.toDigits 10 e.natAbs).map digitValue, []) := by
    have hscan := someDigits_append (fun _ => isDigit_of_mem_toDigits)
      (Nat.toDigits_ne_nil (b := 10) (n := e.natAbs)) endsDigits_nil
    rwa [List.append_nil] at hscan
  by_cases he : e < 0
  · have hneg : -(ofDigits ((Nat.toDigits 10 e.natAbs).map digitValue) : Int) = e := by
      rw [ofDigits_toDigits]
      omega
    rw [if_pos he]
    change (someDigits (Nat.toDigits 10 e.natAbs)).map
      (fun r => (some (-(ofDigits r.1 : Int)), r.2)) = _
    rw [hdigits, Except.map, hneg]
  · have hpos : (ofDigits ((Nat.toDigits 10 e.natAbs).map digitValue) : Int) = e := by
      rw [ofDigits_toDigits]
      omega
    rw [if_neg he]
    change (someDigits (Nat.toDigits 10 e.natAbs)).map
      (fun r => (some (ofDigits r.1 : Int), r.2)) = _
    rw [hdigits, Except.map, hpos]

/-! ### The characters of a number -/

/-- A character that a number can be written with. -/
def isNumeric (c : Char) : Bool :=
  c.isDigit || c = '-' || c = '+' || c = '.' || c = 'e' || c = 'E'

/-- Before the rest of a text stand only characters of numbers. -/
def Passes (cs rest : List Char) : Prop :=
  ∃ front, cs = front ++ rest ∧ ∀ c ∈ front, isNumeric c = true

lemma Passes.refl (cs : List Char) : Passes cs cs :=
  ⟨[], rfl, nofun⟩

lemma Passes.trans {cs ds rest : List Char} (h : Passes cs ds) (h' : Passes ds rest) :
    Passes cs rest := by
  obtain ⟨front, rfl, hfront⟩ := h
  obtain ⟨back, rfl, hback⟩ := h'
  exact ⟨front ++ back, (List.append_assoc front back rest).symm,
    List.forall_mem_append.2 ⟨hfront, hback⟩⟩

lemma Passes.cons {c : Char} (hc : isNumeric c = true) {cs rest : List Char} (h : Passes cs rest) :
    Passes (c :: cs) rest := by
  obtain ⟨front, rfl, hfront⟩ := h
  exact ⟨c :: front, rfl, List.forall_mem_cons.2 ⟨hc, hfront⟩⟩

lemma passes_digits (cs : List Char) : Passes cs (digits cs).2 := by
  induction cs with
  | nil => exact .refl []
  | cons c cs ih =>
    rw [digits, digit?_eq]
    split
    next hd =>
      split at hd
      next hc => exact ih.cons (by simp [isNumeric, hc])
      next => cases hd
    next => exact .refl _

lemma passes_someDigits {cs rest : List Char} {ds : List Nat}
    (h : someDigits cs = .ok (ds, rest)) : Passes cs rest := by
  have hdigits := passes_digits cs
  unfold someDigits at h
  split at h
  · cases h
  · rw [Except.ok.inj h] at hdigits
    exact hdigits

lemma passes_wholePart {cs rest : List Char} {ds : List Nat}
    (h : wholePart cs = .ok (ds, rest)) : Passes cs rest := by
  have hdigits := passes_digits cs
  unfold wholePart at h
  split at h
  · cases h
  · cases h
  · rw [Except.ok.inj h] at hdigits
    exact hdigits

lemma passes_fractionPart {cs rest : List Char} {f : Option (List Nat)}
    (h : fractionPart cs = .ok (f, rest)) : Passes cs rest := by
  unfold fractionPart at h
  split at h
  · obtain ⟨⟨ds, rest⟩, hdigits, heq⟩ := exists_of_map_eq_ok h
    cases heq
    exact (passes_someDigits hdigits).cons (by decide)
  · cases h
    exact .refl cs

lemma passes_exponentPart {cs rest : List Char} {e : Option Int}
    (h : exponentPart cs = .ok (e, rest)) : Passes cs rest := by
  unfold exponentPart at h
  split at h
  next c cs =>
    split at h
    next hc =>
      have hletter : isNumeric c = true := by
        rcases hc with rfl | rfl <;> decide
      split at h
      · obtain ⟨⟨ds, rest⟩, hdigits, heq⟩ := exists_of_map_eq_ok h
        cases heq
        exact ((passes_someDigits hdigits).cons (by decide)).cons hletter
      · obtain ⟨⟨ds, rest⟩, hdigits, heq⟩ := exists_of_map_eq_ok h
        cases heq
        exact ((passes_someDigits hdigits).cons (by decide)).cons hletter
      · obtain ⟨⟨ds, rest⟩, hdigits, heq⟩ := exists_of_map_eq_ok h
        cases heq
        exact (passes_someDigits hdigits).cons hletter
    next =>
      cases h
      exact .refl _
  next =>
    cases h
    exact .refl _

lemma passes_literal {cs rest : List Char} {l : Literal} (h : literal cs = .ok (l, rest)) :
    Passes cs rest := by
  unfold literal at h
  split at h
  next negative cs₀ hsign =>
    obtain ⟨⟨ds, cs₁⟩, hwhole, h⟩ := exists_of_bind_eq_ok h
    obtain ⟨⟨f, cs₂⟩, hfraction, h⟩ := exists_of_bind_eq_ok h
    obtain ⟨⟨e, cs₃⟩, hexponent, h⟩ := exists_of_bind_eq_ok h
    cases h
    have hdigits : Passes cs₀ rest :=
      (passes_wholePart hwhole).trans
        ((passes_fractionPart hfraction).trans (passes_exponentPart hexponent))
    split at hsign
    · cases hsign
      exact hdigits.cons (by decide)
    · cases hsign
      exact hdigits

/-- A text that denotes a number is made of characters of numbers. -/
lemma Denotes.isNumeric {cs : List Char} {x : ℚ} (h : Denotes cs x) :
    ∀ c ∈ cs, isNumeric c = true := by
  obtain ⟨l, hl, -⟩ := h
  obtain ⟨front, rfl, hfront⟩ := passes_literal hl
  rwa [List.append_nil]

/-! ### What becomes of an integer literal -/

/-- Digits whose value fits 64 bits are all taken. -/
lemma absorb_eq {s : Nat} {ds : List Nat}
    (h : ds.foldl (fun n d => 10 * n + d) s < wordBound) :
    absorb s ds = (ds.foldl (fun n d => 10 * n + d) s, 0) := by
  induction ds generalizing s with
  | nil => rfl
  | cons d ds ih =>
    rw [List.foldl_cons] at h ⊢
    have hle : 10 * s + d ≤ ds.foldl (fun n d => 10 * n + d) (10 * s + d) := by
      rw [foldl_digits]
      exact (Nat.le_mul_of_pos_right _ (Nat.pow_pos (by decide))).trans (Nat.le_add_right _ _)
    rw [absorb, if_pos (hle.trans_lt h), ih h]

namespace Literal

variable {l : Literal}

/-- The literal of an integer that fits 64 bits, with a sign or without. -/
def Fits (l : Literal) : Prop :=
  -0x8000000000000000 ≤ l.integer ∧ l.integer < 0x10000000000000000

/-- The zero with a sign becomes a double, which is zero. -/
lemma numeral?_of_negative_zero (h : l.IsInteger) (hneg : l.negative = true)
    (hzero : ofDigits l.whole = 0) :
    l.numeral? = some (.real ⟨true, Number.Magnitude.zero⟩) := by
  have habsorb : absorb 0 l.whole = (0, 0) := by
    have hfold : l.whole.foldl (fun n d => 10 * n + d) 0 = 0 := hzero
    rw [absorb_eq (by rw [hfold]; decide), hfold]
  obtain ⟨hfraction, hexponent⟩ := h
  have hreal : l.real? = some ⟨true, Number.Magnitude.zero⟩ := by
    rw [real?, habsorb, hfraction, hexponent, hneg]
    rfl
  simp [numeral?, hfraction, hexponent, hneg, hzero, hreal]

/-- An integer that fits stays an integer, unless it is a zero with a sign. -/
lemma numeral?_of_fits (h : l.IsInteger) (hfits : l.Fits)
    (hzero : ¬ (l.negative = true ∧ ofDigits l.whole = 0)) :
    l.numeral? = some (.integer l.integer) := by
  obtain ⟨hfraction, hexponent⟩ := h
  obtain ⟨hlow, hhigh⟩ := hfits
  unfold integer at hlow hhigh ⊢
  cases hneg : l.negative with
  | true =>
    rw [hneg, if_pos rfl] at hlow
    have hpos : 0 < ofDigits l.whole := Nat.pos_of_ne_zero fun h => hzero ⟨hneg, h⟩
    have hbound : 2 * ofDigits l.whole ≤ wordBound := by
      unfold wordBound
      omega
    simp [numeral?, hfraction, hexponent, hneg, hpos, hbound]
  | false =>
    rw [hneg, if_neg (by decide)] at hhigh
    have hbound : ofDigits l.whole < wordBound := by
      unfold wordBound
      omega
    simp [numeral?, hfraction, hexponent, hneg, hbound]

/-- An integer that does not fit becomes a double. -/
lemma numeral?_of_not_fits (h : l.IsInteger) (hfits : ¬ l.Fits) :
    l.numeral? = l.real?.map .real := by
  obtain ⟨hfraction, hexponent⟩ := h
  unfold Fits integer at hfits
  cases hneg : l.negative with
  | true =>
    rw [hneg, if_pos rfl] at hfits
    have hbound : ¬ 2 * ofDigits l.whole ≤ wordBound := by
      unfold wordBound
      omega
    simp [numeral?, hfraction, hexponent, hneg, hbound]
  | false =>
    rw [hneg, if_neg (by decide)] at hfits
    have hbound : ¬ ofDigits l.whole < wordBound := by
      unfold wordBound
      omega
    simp [numeral?, hfraction, hexponent, hneg, hbound]

end Literal

end Scan

end Json

end Tidemark
