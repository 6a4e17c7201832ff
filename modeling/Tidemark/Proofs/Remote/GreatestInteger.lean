import Mathlib.Algebra.Order.Ring.Rat
import Mathlib.Tactic.NormNum
import Tidemark.Engine.MaxValue
import Tidemark.Proofs.Engine.Evaluation
import Tidemark.Proofs.Engine.GreatestValue
import Tidemark.Proofs.Json.Denotation
import Tidemark.Proofs.Json.Written
import Tidemark.Proofs.Number.Shortest
import Tidemark.Remote.RowsBody

/-!
# A greatest value that is an integer

The greatest value of a page comes back as a number in the text of an answer, and is kept as a text
that the next page starts from.  In between it is a 64-bit integer or a double, so that the question
is which integers survive.  The text of an answer is read a second time, with numbers as they are
written (`WrittenBody.read`), and the integer that is written there is compared with the text that
is kept (`Keeps`): an integer of 64 bits is kept, and any other one exactly if it is the number that
its double is written as, which has no more than 17 digits before its zeros
(`greatest_integer_is_kept_or_rounded`).
-/

namespace Tidemark

/-! ### Integers among shortest decimals -/

namespace Number

/-- A large integer that a double is written as consists of 17 digits and zeros behind them, or is a
power of ten. -/
lemma Binary64.exists_natAbs_eq {x : Binary64} {n : ℤ} (hlarge : 10 ^ 17 < n.natAbs)
    (h : x.shown = n) : ∃ g e : ℕ, g ≤ 10 ^ 17 ∧ n.natAbs = g * 10 ^ e := by
  have habs : ((n.natAbs : ℕ) : ℚ) = |x.magnitude.shown| := by
    rw [Nat.cast_natAbs, Int.cast_abs, ← h, shown, abs_mul]
    have hsign : |Json.Scan.signFactor x.negative| = 1 := by
      cases x.negative <;> simp [Json.Scan.signFactor]
    rw [hsign, one_mul]
  have hne : ¬ x.magnitude.mantissa = 0 := by
    intro hzero
    rw [Magnitude.shown, if_pos hzero, abs_zero, Nat.cast_eq_zero] at habs
    omega
  rw [Magnitude.shown, if_neg hne, abs_of_nonneg (by positivity)] at habs
  have hsmall := Shortest.significand_decimal_le x.magnitude
  refine ⟨_, (Shortest.decimal x.magnitude).exponent.toNat, hsmall, ?_⟩
  rcases le_or_gt 0 (Shortest.decimal x.magnitude).exponent with hexp | hexp
  · rw [← Int.toNat_of_nonneg hexp, zpow_natCast] at habs
    exact_mod_cast habs
  · -- an integer above `10 ^ 17` has no places behind the point
    have hle : (10 : ℚ) ^ (Shortest.decimal x.magnitude).exponent ≤ 1 :=
      zpow_le_one_of_nonpos₀ (by norm_num) hexp.le
    have hbound : ((n.natAbs : ℕ) : ℚ) ≤ (Shortest.decimal x.magnitude).significand := by
      rw [habs]
      exact mul_le_of_le_one_right (Nat.cast_nonneg _) hle
    have hcast : n.natAbs ≤ (Shortest.decimal x.magnitude).significand := by
      exact_mod_cast hbound
    omega

end Number

/-! ### Scalars as they are written -/

namespace Json.Written

/-- A scalar is written as a literal, by itself or in a typed cell. -/
inductive Holds : Written → Scan.Literal → Prop
  | plain (l : Scan.Literal) : Holds (.number l) l
  | cell {ms : List (String × Written)} {w : Written} {l : Scan.Literal}
      (hvalue : Members.find? "value" ms = some w) (h : Holds w l) : Holds (.object ms) l

/-- The text of a scalar is that of the number that its literal is read as. -/
lemma scalarText_of_holds {w : Written} {v : Json} {l : Scan.Literal} (hv : ReadAs w v)
    (h : Holds w l) :
    ∃ n, l.numeral? = some n ∧ Engine.scalarText v = some (String.ofList n.render) := by
  induction h generalizing v with
  | plain l =>
    cases hv with
    | number hn => exact ⟨_, hn, by rw [Engine.scalarText]⟩
  | @cell ms w l hvalue h ih =>
    obtain ⟨vs, rfl, hmembers⟩ := hv.members
    obtain ⟨v, hcell, hread⟩ :=
      Decoder.exists_find?_of_members (p := fun v w => ReadAs w v) hmembers hvalue
    obtain ⟨n, hn, htext⟩ := ih hread
    refine ⟨n, hn, ?_⟩
    rw [Engine.scalarText, Engine.cellText_eq, hcell, Option.bind_some, htext]

end Json.Written

/-! ### Answers as they are written -/

namespace Remote

open Json Json.Decoder

/-- The column names of an answer and its rows, in which numbers stand as they are written. -/
structure WrittenBody where
  columns : List String
  rows : List (List (String × Written))

namespace WrittenBody

/-- The fields of an answer, with numbers as they are written. -/
def fields : List (FieldDecoder WrittenBody) :=
  [{ name := "columns"
     optional := true
     read := fun b depth cs =>
      (Json.Decoder.list RowsBody.columnDecoder depth cs).map fun r =>
        ({ b with columns := r.1 }, r.2) },
    { name := "rows"
      optional := true
      read := fun b depth cs =>
        (Json.Decoder.list (Json.Decoder.map Written.reader) depth cs).map fun r =>
          ({ b with rows := r.1 }, r.2) }]

/-- Reads an answer, with numbers as they are written. -/
def decoder : Json.Decoder WrittenBody :=
  record "RowsResponse" fields ⟨[], []⟩

/-- Reads the text of a body, with numbers as they are written. -/
def read (text : String) : Except Json.Fault WrittenBody :=
  if Text.isBlankText text then .ok ⟨[], []⟩ else readAll decoder text

/-- The fields of a row are those of a written row. -/
def RowReadAs (row : Engine.Row) (w : List (String × Written)) : Prop :=
  List.Forall₂ (fun m m' => m.1 = m'.1 ∧ m'.2.ReadAs m.2) row.fields w

/-- Where a written row has a field, the row has one. -/
lemma RowReadAs.exists_get? {row : Engine.Row} {fields : List (String × Written)}
    (h : RowReadAs row fields) {name : String} {w : Written}
    (hw : Members.find? name fields = some w) : ∃ cell, row.get? name = some cell ∧ w.ReadAs cell :=
  exists_find?_of_members (p := fun v w => Written.ReadAs w v) h hw

/-- The columns and rows of an answer are those of a written answer. -/
structure ReadAs (w : WrittenBody) (b : RowsBody) : Prop where
  columns : b.columns = w.columns
  rows : List.Forall₂ RowReadAs b.rows w.rows

/-- An answer without rows is written without rows. -/
lemma readAs_empty : ReadAs ⟨[], []⟩ RowsBody.empty :=
  ⟨rfl, .nil⟩

/-- Whatever is read as a row can be read as a written row. -/
lemma follows_row (depth : Nat) :
    Follows RowReadAs (Engine.Row.decoder depth) (Json.Decoder.map Written.reader depth) := by
  intro cs row rest h
  obtain ⟨⟨ms, rest⟩, hread, heq⟩ := exists_of_map_eq_ok h
  cases heq
  exact Follows.map Written.follows_value depth hread

/-- The fields of an answer follow each other. -/
lemma follows_fields :
    List.Forall₂ (FollowsField fun b w => ReadAs w b) RowsBody.fields fields := by
  refine .cons ⟨rfl, rfl, ?_⟩ (.cons ⟨rfl, rfl, ?_⟩ .nil)
  · intro b w hbw depth cs b' rest h
    obtain ⟨⟨columns, cs₁⟩, hread, heq⟩ := exists_of_map_eq_ok h
    cases heq
    exact ⟨{ w with columns }, congrArg (Except.map _) hread, rfl, hbw.rows⟩
  · intro b w hbw depth cs b' rest h
    obtain ⟨⟨rows, cs₁⟩, hread, heq⟩ := exists_of_map_eq_ok h
    cases heq
    obtain ⟨rows', hread', hrows⟩ := Follows.list follows_row depth hread
    exact ⟨{ w with rows := rows' }, congrArg (Except.map _) hread', hbw.columns, hrows⟩

/-- **Whatever is read as an answer can be read as it is written.** -/
theorem exists_of_read {text : String} {b : RowsBody} (h : RowsBody.read text = .ok b) :
    ∃ w, read text = .ok w ∧ ReadAs w b := by
  unfold RowsBody.read at h
  unfold read
  split at h
  next hblank =>
    cases h
    exact ⟨_, if_pos hblank, readAs_empty⟩
  next hblank =>
    obtain ⟨w, hw, hbw⟩ := Follows.readAll
      (Follows.record follows_fields "RowsResponse" readAs_empty maxDepth) h
    exact ⟨w, (if_neg hblank).trans hw, hbw⟩

end WrittenBody

end Remote

/-! ### What is kept of an integer -/

namespace Engine

open Json.Scan

/-- An engine compares integer cells with the numbers that literals denote. -/
def Collation.Numeric (o : Collation) : Prop :=
  ∀ (m : ℤ) (v : String) (y : ℚ), Denotes v.toList y → (o.exceeds (.ofInt m) v = true ↔ y < m)

/-- The number that a text denotes. -/
def number? (s : String) : Option ℚ :=
  match literal s.toList with
  | .ok (l, []) => some l.value
  | _ => none

/-- A text that denotes a number has it. -/
lemma number?_of_denotes {s : String} {y : ℚ} (h : Denotes s.toList y) : number? s = some y := by
  obtain ⟨l, hl, rfl⟩ := h
  rw [number?, hl]

/-- Cells compared by the numbers that their texts denote; other cells count as zero. -/
def Collation.byNumber : Collation where
  le a b := decide (((scalarText a).bind number?).getD 0 ≤ ((scalarText b).bind number?).getD 0)
  exceeds a v := decide ((number? v).getD 0 < ((scalarText a).bind number?).getD 0)

/-- Integer cells are compared by their integers. -/
lemma Collation.numeric_byNumber : byNumber.Numeric := by
  intro m v y h
  have hcell : Denotes (String.ofList (Json.Numeral.integer m).render).toList m := by
    rw [String.toList_ofList]
    exact (Json.Numeral.integer m).denotes_render
  simp only [byNumber, Json.ofInt, scalarText, Option.bind_some, number?_of_denotes hcell,
    number?_of_denotes h, Option.getD_some, decide_eq_true_iff]

/-- The text of a number has no character that a literal must not hold. -/
lemma sanitize_of_denotes {s : String} {y : ℚ} (h : Denotes s.toList y) : Query.sanitize s = s := by
  have hplain : Query.sanitizeChars s.toList = s.toList := by
    refine List.filter_eq_self.2 fun c hc => ?_
    rw [Bool.not_eq_true', ← Bool.not_eq_true]
    intro hforbidden
    have hnumeric := h.isNumeric c hc
    simp only [Query.isForbidden, Bool.or_eq_true, decide_eq_true_eq] at hforbidden
    rcases hforbidden with ((rfl | rfl) | rfl) | rfl <;> exact absurd hnumeric (by decide)
  rw [Query.sanitize, hplain, String.ofList_toList]

/-- What is kept of an integer that is written as the greatest value: a text that denotes a number,
which may be another one. -/
structure Keeps (l : Literal) (s : String) (y : ℚ) : Prop where
  /-- The text denotes the number. -/
  denotes : Denotes s.toList y
  /-- An integer of 64 bits, with a sign or without, is kept. -/
  fits (h : l.Fits) : y = l.integer
  /-- Of any other integer the shortest decimal of its double is kept. -/
  double (h : ¬ l.Fits) : ∃ x, l.real? = some x ∧ s = x.render Json.realLayout ∧ y = x.shown
  /-- Beyond 64 bits only integers are kept that have 17 digits at most before their zeros, or are a
  power of ten. -/
  digits (h : ¬ l.Fits) (hkept : y = l.integer) :
    ∃ g e : ℕ, g ≤ 10 ^ 17 ∧ l.integer.natAbs = g * 10 ^ e
  /-- The next page starts with the integers above the number. -/
  next (c : Query.Constraint) :
    ∃ later, Query.Rewriter.rowSteps (some c) (some s) = .whereGreater c.column s :: later ∧
      ∀ o : Collation, o.Numeric → ∀ rows out, StepYields o (.whereGreater c.column s) rows out →
        ∀ r ∈ rows, ∀ m : ℤ, r.get? c.column = some (.ofInt m) → (r ∈ out ↔ y < m)

/-- The text of the number that the literal of an integer is read as keeps what it can. -/
lemma keeps_render {l : Literal} (hl : l.IsInteger) {n : Json.Numeral} (hn : l.numeral? = some n) :
    Keeps l (Query.sanitize (String.ofList n.render)) n.shown := by
  have hdenotes : Denotes (String.ofList n.render).toList n.shown := by
    rw [String.toList_ofList]
    exact n.denotes_render
  rw [sanitize_of_denotes hdenotes]
  have hdouble : ¬ l.Fits → ∃ x, l.real? = some x ∧ n = .real x := by
    intro h
    rw [Literal.numeral?_of_not_fits hl h] at hn
    obtain ⟨x, hx, rfl⟩ := Option.map_eq_some_iff.1 hn
    exact ⟨x, hx, rfl⟩
  refine ⟨hdenotes, fun h => Literal.shown_of_fits hl h hn, ?_, ?_, ?_⟩
  · intro h
    obtain ⟨x, hx, rfl⟩ := hdouble h
    exact ⟨x, hx, String.ofList_toList, rfl⟩
  · intro h hkept
    obtain ⟨x, -, rfl⟩ := hdouble h
    refine Number.Binary64.exists_natAbs_eq ?_ hkept
    unfold Literal.Fits at h
    omega
  · intro c
    refine ⟨_, rfl, fun o ho rows out hout r hr m hm => ?_⟩
    obtain rfl : out = _ := hout
    rw [List.mem_filter, hm, Option.any_some, ho m _ _ hdenotes]
    exact and_iff_right hr

end Engine

namespace Remote

open Json Json.Decoder

/-- **An integer of 64 bits is kept, and any other one if its double is written as it.**  When an
answer is read and gives a greatest value, then its text can be read as it is written; it has one
row, and if an integer is written in the field of the greatest value, by itself or in a typed cell,
then the text that is kept denotes a number (`Engine.Keeps`).  This is the integer itself if it fits
64 bits, with a sign or without, and what the nearest double is written as if not; the next page
starts with the integers above that number, whichever it is. -/
theorem greatest_integer_is_kept_or_rounded {text : String} {b : RowsBody}
    (hb : RowsBody.read text = .ok b) {s : String} (hs : Engine.maxValue b.rows = .ok s) :
    ∃ w fields, WrittenBody.read text = .ok w ∧ w.ReadAs b ∧ w.rows = [fields] ∧
      ∀ field l, Members.find? Query.Rewriter.maxField fields = some field → field.Holds l →
        l.IsInteger → ∃ y, Engine.Keeps l s y := by
  obtain ⟨w, hw, hbw⟩ := WrittenBody.exists_of_read hb
  obtain ⟨row, cell, t, hrow, hcell, ht, rfl⟩ := Engine.exists_of_maxValue hs
  have hrows := hbw.rows
  rw [hrow] at hrows
  obtain ⟨fields, rest, hfields, hrest, hwritten⟩ := List.forall₂_cons_left_iff.1 hrows
  obtain rfl := List.forall₂_nil_left_iff.1 hrest
  refine ⟨w, fields, hw, hbw, hwritten, fun field l hfield hl hinteger => ?_⟩
  obtain ⟨cell', hcell', hread⟩ := hfields.exists_get? hfield
  obtain rfl := Option.some.inj (hcell.symm.trans hcell')
  obtain ⟨n, hn, hrender⟩ := Written.scalarText_of_holds hread hl
  obtain rfl := Option.some.inj (ht.symm.trans hrender)
  exact ⟨n.shown, Engine.keeps_render hinteger hn⟩

/-- The literal of the greatest integer of 64 bits without a sign. -/
def unsignedLong : Scan.Literal :=
  ⟨false, [1, 8, 4, 4, 6, 7, 4, 4, 0, 7, 3, 7, 0, 9, 5, 5, 1, 6, 1, 5], none, none⟩

/-- An answer with that integer in a typed cell. -/
def unsignedLongText : String :=
  "\x7b\"rows\":[\x7b\"constraint\":\x7b\"type\":\"xs:unsignedLong\","
    ++ "\"value\":18446744073709551615\x7d\x7d]\x7d"

/-- The greatest integer of 64 bits is kept. -/
theorem unsigned_long_is_kept :
    Engine.Keeps unsignedLong "18446744073709551615" 18446744073709551615 := by
  have hb : RowsBody.read unsignedLongText = .ok ⟨[], [⟨[("constraint",
      .object [("type", .string "xs:unsignedLong"),
        ("value", .ofInt 18446744073709551615)])]⟩]⟩ := by
    rfl
  have hw : WrittenBody.read unsignedLongText = .ok ⟨[], [[("constraint",
      .object [("type", .string "xs:unsignedLong"), ("value", .number unsignedLong)])]]⟩ := by
    rfl
  have hs : Engine.maxValue [⟨[("constraint", .object [("type", .string "xs:unsignedLong"),
      ("value", .ofInt 18446744073709551615)])]⟩] = .ok "18446744073709551615" := by
    rfl
  obtain ⟨w, fields, hread, -, hrows, hkeeps⟩ := greatest_integer_is_kept_or_rounded hb hs
  cases hw.symm.trans hread
  cases hrows
  obtain ⟨y, hy⟩ := hkeeps _ unsignedLong rfl (.cell rfl (.plain _)) ⟨rfl, rfl⟩
  have hfits : unsignedLong.Fits := by
    constructor <;> decide
  have hvalue : y = 18446744073709551615 := (hy.fits hfits).trans (by rfl)
  rwa [hvalue] at hy

/-- The literal of an integer beyond 64 bits, `2 ^ 64 + 1`. -/
def beyondLong : Scan.Literal :=
  ⟨false, [1, 8, 4, 4, 6, 7, 4, 4, 0, 7, 3, 7, 0, 9, 5, 5, 1, 6, 1, 7], none, none⟩

/-- An answer with that integer. -/
def beyondLongText : String :=
  "\x7b\"rows\":[\x7b\"constraint\":18446744073709551617\x7d]\x7d"

/-- Of `2 ^ 64 + 1` a greater number is kept, and the next page leaves out the row with the integer
that comes after it. -/
theorem integer_beyond_long_is_rounded :
    ∃ b s, RowsBody.read beyondLongText = .ok b ∧ Engine.maxValue b.rows = .ok s ∧
      WrittenBody.read beyondLongText = .ok ⟨[], [[("constraint", .number beyondLong)]]⟩ ∧
      beyondLong.IsInteger ∧ ¬ Scan.Denotes s.toList beyondLong.integer ∧
      Engine.Collation.byNumber.Numeric ∧ beyondLong.integer < 18446744073709551618 ∧
      Engine.StepYields .byNumber (.whereGreater "ID" s)
        [⟨[("ID", .ofInt 18446744073709551618)]⟩] [] := by
  have hs : Engine.maxValue [⟨[("constraint", .number (.real ⟨false, ⟨0x10000000000000, 12⟩⟩))]⟩]
      = .ok "1.8446744073709552e+19" := by
    decide +kernel
  have hdenotes : Scan.Denotes "1.8446744073709552e+19".toList 18446744073709552000 := by
    refine ⟨⟨false, [1], some [8, 4, 4, 6, 7, 4, 4, 0, 7, 3, 7, 0, 9, 5, 5, 2], some 19⟩, rfl, ?_⟩
    norm_num [Scan.Literal.value, Scan.signFactor, Scan.ofDigits]
  have hinteger : beyondLong.integer = 18446744073709551617 := by decide
  refine ⟨_, _, rfl, hs, rfl, ⟨rfl, rfl⟩, ?_, Engine.Collation.numeric_byNumber, by decide, ?_⟩
  · intro h
    have heq := hdenotes.unique h
    rw [hinteger] at heq
    exact absurd heq (by norm_num)
  · have hnot : Engine.Collation.byNumber.exceeds (.ofInt 18446744073709551618)
        "1.8446744073709552e+19" = false := by
      rw [Bool.eq_false_iff, Ne, Engine.Collation.numeric_byNumber _ _ _ hdenotes]
      norm_num
    simp [Engine.StepYields, Engine.Row.get?, Members.find?, hnot]

end Remote

end Tidemark
