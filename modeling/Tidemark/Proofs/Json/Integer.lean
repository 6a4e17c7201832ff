import Mathlib.Tactic.Common
import Tidemark.Json.Printer
import Tidemark.Json.Scan

/-!
# Integers survive their JSON text

A number is scanned as far as its characters go, so an integer is read back only if what follows it
cannot belong to a number (`EndsNumber`).  Its digits are then taken as they are written: they do
not start with a zero that is followed by another digit (`exists_toDigits_eq_cons`), and so the
whole part is not refused.  An integer that fits 64 bits, with a sign or without, stays an integer.
-/

namespace Tidemark.Json.Scan

/-- A text does not start with a character that could continue a number. -/
def EndsNumber (rest : List Char) : Prop :=
  ∀ c ∈ rest.head?, c.isDigit = false ∧ c ≠ '.' ∧ c ≠ 'e' ∧ c ≠ 'E'

lemma endsNumber_nil : EndsNumber [] :=
  nofun

lemma endsNumber_cons {c : Char} {rest : List Char} :
    EndsNumber (c :: rest) ↔ c.isDigit = false ∧ c ≠ '.' ∧ c ≠ 'e' ∧ c ≠ 'E' := by
  simp [EndsNumber]

instance : DecidablePred EndsNumber
  | [] => isTrue endsNumber_nil
  | _ :: _ => decidable_of_iff' _ endsNumber_cons

/-! ### Digits -/

/-- The value of a decimal digit. -/
def digitValue (c : Char) : Nat :=
  c.toNat - '0'.toNat

lemma digit?_eq (c : Char) : digit? c = if c.isDigit then some (digitValue c) else none := by
  unfold digit? Char.isDigit digitValue
  simp only [Bool.and_eq_true, decide_eq_true_eq]
  rfl

/-- A text does not start with a digit. -/
def EndsDigits (rest : List Char) : Prop :=
  ∀ c ∈ rest.head?, c.isDigit = false

/-- The empty text starts with no digit. -/
lemma endsDigits_nil : EndsDigits [] :=
  nofun

/-- A text that starts with something else starts with no digit. -/
lemma endsDigits_cons {c : Char} (hc : c.isDigit = false) (cs : List Char) :
    EndsDigits (c :: cs) := by
  intro d hd
  rwa [← Option.some.inj hd]

/-- What cannot continue a number is no digit. -/
lemma EndsNumber.endsDigits {rest : List Char} (h : EndsNumber rest) : EndsDigits rest :=
  fun c hc => (h c hc).1

/-- Digits are scanned up to something else. -/
lemma digits_append {ds rest : List Char} (hds : ∀ c ∈ ds, c.isDigit = true)
    (hrest : EndsDigits rest) : digits (ds ++ rest) = (ds.map digitValue, rest) := by
  induction ds with
  | nil =>
    cases rest with
    | nil => rfl
    | cons c cs =>
      have hc : digit? c = none := by simp [digit?_eq, hrest c rfl]
      simp [digits, hc]
  | cons d ds ih =>
    have hd : digit? d = some (digitValue d) := by simp [digit?_eq, hds d (by simp)]
    simp [digits, hd, ih fun c hc => hds c (List.mem_cons_of_mem d hc)]

/-- The value of scanned digits is the value of the decimal text. -/
lemma ofDigits_map (ds : List Char) :
    ofDigits (ds.map digitValue) = Nat.ofDigitChars 10 ds 0 := by
  have hfold : ∀ n, (ds.map digitValue).foldl (fun n d => 10 * n + d) n
      = Nat.ofDigitChars 10 ds n := by
    induction ds with
    | nil => exact fun n => rfl
    | cons d ds ih =>
      intro n
      rw [List.map_cons, List.foldl_cons, ih, Nat.ofDigitChars_cons, digitValue]
  exact hfold 0

/-- The decimal text of a number has its value. -/
lemma ofDigits_toDigits (n : Nat) : ofDigits ((Nat.toDigits 10 n).map digitValue) = n := by
  rw [ofDigits_map]
  exact Nat.ofDigitChars_toDigits (by decide) (by decide)

/-- The decimal text of a positive number does not start with a zero. -/
lemma exists_toDigits_eq_cons {n : Nat} (hn : 0 < n) :
    ∃ c cs, Nat.toDigits 10 n = c :: cs ∧ c ≠ '0' := by
  induction n using Nat.strongRecOn with
  | ind n ih =>
    by_cases hlt : n < 10
    · refine ⟨n.digitChar, [], Nat.toDigits_of_lt_base hlt, ?_⟩
      have hdigits : ∀ m < 10, 0 < m → m.digitChar ≠ '0' := by decide
      exact hdigits n hlt hn
    · obtain ⟨c, cs, hhead, hc⟩ := ih (n / 10) (by omega) (by omega)
      refine ⟨c, cs ++ [(n % 10).digitChar], ?_, hc⟩
      rw [Nat.toDigits_of_base_le (by decide) (by omega), hhead, List.cons_append]

lemma isDigit_of_mem_toDigits {n : Nat} {c : Char} (hc : c ∈ Nat.toDigits 10 n) :
    c.isDigit = true :=
  Nat.isDigit_of_mem_toDigits (by decide) (by decide) hc

/-- Digits that can stand before a point: one at least, and a zero at the front only by itself. -/
structure Whole (ds : List Char) : Prop where
  digit : ∀ c ∈ ds, c.isDigit = true
  ne_nil : ds ≠ []
  lead : ds.head? = some '0' → ds = ['0']

/-- The zero is the only digit of its value. -/
lemma digitValue_eq_zero_iff {c : Char} (h : c.isDigit = true) : digitValue c = 0 ↔ c = '0' := by
  simp only [Char.isDigit, Bool.and_eq_true, decide_eq_true_eq] at h
  have hlow : 48 ≤ c.toNat := h.1
  constructor
  · intro hzero
    have hhigh : c.toNat ≤ 48 := Nat.sub_eq_zero_iff_le.1 hzero
    exact Char.toNat_inj.1 (Nat.le_antisymm hhigh hlow)
  · rintro rfl
    rfl

/-- The whole part of a number is scanned up to something else than a digit. -/
lemma wholePart_append {ds rest : List Char} (hds : Whole ds) (hrest : EndsDigits rest) :
    wholePart (ds ++ rest) = .ok (ds.map digitValue, rest) := by
  obtain ⟨hdigit, hne, hlead⟩ := hds
  obtain ⟨d, ds, rfl⟩ := List.exists_cons_of_ne_nil hne
  unfold wholePart
  rw [digits_append hdigit hrest, List.map_cons]
  split
  next h => cases h
  next h =>
    simp only [Prod.mk.injEq, List.cons.injEq] at h
    have hd : d = '0' := (digitValue_eq_zero_iff (hdigit d List.mem_cons_self)).1 h.1.1
    obtain rfl := (List.cons.inj (hlead (congrArg some hd))).2
    cases h.1.2
  next => rfl

/-- The decimal text of a number can stand before a point. -/
lemma whole_toDigits (n : Nat) : Whole (Nat.toDigits 10 n) := by
  refine ⟨fun _ => isDigit_of_mem_toDigits, Nat.toDigits_ne_nil, fun hzero => ?_⟩
  rcases Nat.eq_zero_or_pos n with rfl | hn
  · rfl
  · obtain ⟨c, cs, hhead, hc⟩ := exists_toDigits_eq_cons hn
    rw [hhead] at hzero
    exact absurd (Option.some.inj hzero) hc

/-! ### Numbers -/

lemma fractionPart_of_endsNumber {rest : List Char} (h : EndsNumber rest) :
    fractionPart rest = .ok (none, rest) := by
  unfold fractionPart
  split
  · exact absurd rfl (endsNumber_cons.1 h).2.1
  · rfl

lemma exponentPart_of_endsNumber {rest : List Char} (h : EndsNumber rest) :
    exponentPart rest = .ok (none, rest) := by
  cases rest with
  | nil => rfl
  | cons c cs =>
    obtain ⟨-, -, hlower, hupper⟩ := endsNumber_cons.1 h
    simp [exponentPart, hlower, hupper]

/-- A sign is scanned before the digits. -/
lemma literal_renderInt (n : Int) {rest : List Char} (hrest : EndsNumber rest) :
    literal (Numeral.renderInt n ++ rest) = .ok
      (⟨decide (n < 0), (Nat.toDigits 10 n.natAbs).map digitValue, none, none⟩, rest) := by
  have hwhole := wholePart_append (whole_toDigits n.natAbs) hrest.endsDigits
  by_cases hn : n < 0
  · simp [Numeral.renderInt, hn, literal, hwhole, fractionPart_of_endsNumber hrest,
      exponentPart_of_endsNumber hrest, bind, Except.bind, pure, Except.pure]
  · obtain ⟨c, cs, hcs⟩ :=
      List.exists_cons_of_ne_nil (Nat.toDigits_ne_nil (b := 10) (n := n.natAbs))
    have hminus : c ≠ '-' := by
      rintro rfl
      have := isDigit_of_mem_toDigits (n := n.natAbs) (c := '-') (by simp [hcs])
      exact absurd this (by decide)
    rw [hcs] at hwhole
    simp only [List.cons_append] at hwhole
    simp [Numeral.renderInt, hn, literal, hcs, hminus, hwhole, fractionPart_of_endsNumber hrest,
      exponentPart_of_endsNumber hrest, bind, Except.bind, pure, Except.pure]

/-- **An integer that fits 64 bits is read back from its text**, whatever follows it that cannot
belong to a number. -/
theorem numeral_renderInt {n : Int} (hlow : -0x8000000000000000 ≤ n)
    (hhigh : n < 0x10000000000000000) {rest : List Char} (hrest : EndsNumber rest) :
    numeral (Numeral.renderInt n ++ rest) = .ok (.integer n, rest) := by
  have hnumeral : Literal.numeral? ⟨decide (n < 0), (Nat.toDigits 10 n.natAbs).map digitValue,
      none, none⟩ = some (.integer n) := by
    unfold Literal.numeral?
    simp only [ofDigits_toDigits]
    by_cases hn : n < 0
    · have hpos : 0 < n.natAbs := by omega
      have hbound : 2 * n.natAbs ≤ wordBound := by
        unfold wordBound
        omega
      have habs : -(n.natAbs : Int) = n := by omega
      rw [if_neg (by simp [hn]), if_pos ⟨rfl, rfl, by simp [hn], hpos, hbound⟩, habs]
    · have hbound : n.natAbs < wordBound := by
        unfold wordBound
        omega
      have habs : (n.natAbs : Int) = n := by omega
      rw [if_pos ⟨rfl, rfl, by simp [hn], hbound⟩, habs]
  rw [numeral, literal_renderInt n hrest]
  simp [hnumeral, bind, Except.bind, pure, Except.pure]

end Tidemark.Json.Scan
