import Tidemark.Engine.MaxValue
import Tidemark.Proofs.Query.Agreement

/-!
# Which answers have a greatest value

The greatest value of a page is asked for by a plan whose answer is one row.  In that row the value
stands in one field, by itself or in typed cells, one in the other (`Reaches`), and at the innermost
place there is a scalar with a text or something that has none (`Ends`).  This decides what an
answer gives: the text of the scalar, without the characters that a literal must not hold, or one of
four errors (`greatest_value_of_one_scalar`).  Such a text is left alone when it is sanitized again,
so that the next plans over a text and over a tree start from the same value (`StartsNextPage`).
-/

namespace Tidemark

/-- Nothing is found under a key that no member has. -/
lemma Members.find?_eq_none_iff {α : Type} {k : String} {ms : List (String × α)} :
    Members.find? k ms = none ↔ k ∉ ms.map Prod.fst := by
  induction ms with
  | nil => simp [Members.find?]
  | cons m ms ih =>
    rw [Members.find?, List.map_cons, List.mem_cons, not_or]
    by_cases hk : k = m.1
    · simp [hk]
    · simp [hk, ih]

namespace Engine

open Query (Base Constraint Depicts Request Rewriter Spells Step sanitize)

/-! ### Scalars in cells -/

/-- From a value another one is reached through typed cells. -/
inductive Reaches : Json → Json → Prop
  | here (v : Json) : Reaches v v
  | cell {ms : List (String × Json)} {v w : Json} (hvalue : Members.find? "value" ms = some v)
    (h : Reaches v w) : Reaches (.object ms) w

/-- Where typed cells end: at a scalar with its text, or at a value that has none. -/
inductive Ends : Json → Option String → Prop
  | string (s : String) : Ends (.string s) (some s)
  | number (n : Json.Numeral) : Ends (.number n) (some (Json.number n).compact)
  | bool (b : Bool) : Ends (.bool b) (some (Json.bool b).compact)
  | null : Ends .null none
  | array (items : List Json) : Ends (.array items) none
  | object {ms : List (String × Json)} (hvalue : Members.find? "value" ms = none) :
    Ends (.object ms) none

/-- The text of a typed cell is that of its value. -/
lemma cellText_eq (ms : List (String × Json)) :
    cellText ms = (Members.find? "value" ms).bind scalarText := by
  induction ms with
  | nil => rfl
  | cons m ms ih =>
    obtain ⟨k, v⟩ := m
    rw [cellText, Members.find?]
    by_cases hk : k = "value"
    · rw [if_pos hk, if_pos hk.symm]
      rfl
    · rw [if_neg hk, if_neg (Ne.symm hk), ih]

/-- A scalar at the end of typed cells is the scalar of the outermost one. -/
lemma scalarText_of_reaches {v w : Json} (hreaches : Reaches v w) {o : Option String}
    (hends : Ends w o) : scalarText v = o := by
  induction hreaches with
  | here v =>
    cases hends with
    | string s => rw [scalarText]
    | number n =>
      rw [scalarText, Json.compact, Json.compactChars]
    | bool b => cases b <;> rw [scalarText] <;> rfl
    | null => rw [scalarText]
    | array items => rw [scalarText]
    | object hvalue => rw [scalarText, cellText_eq, hvalue, Option.bind_none]
  | cell hvalue h ih => rw [scalarText, cellText_eq, hvalue, Option.bind_some, ih hends]

-- A value found under a key is no part of its object that a recursion could be seen to go down to,
-- so the members are gone through one by one.
mutual

/-- Typed cells end somewhere. -/
theorem exists_end : ∀ v : Json, ∃ w o, Reaches v w ∧ Ends w o
  | .null => ⟨_, _, .here _, .null⟩
  | .bool b => ⟨_, _, .here _, .bool b⟩
  | .number n => ⟨_, _, .here _, .number n⟩
  | .string s => ⟨_, _, .here _, .string s⟩
  | .array items => ⟨_, _, .here _, .array items⟩
  | .object ms => by
    cases hvalue : Members.find? "value" ms with
    | none => exact ⟨_, _, .here _, .object hvalue⟩
    | some v =>
      obtain ⟨w, o, hreaches, hends⟩ := exists_end_of_find? ms hvalue
      exact ⟨w, o, .cell hvalue hreaches, hends⟩

/-- A typed cell that has a value ends somewhere. -/
theorem exists_end_of_find? : ∀ (ms : List (String × Json)) {v : Json},
    Members.find? "value" ms = some v → ∃ w o, Reaches v w ∧ Ends w o
  | [], _, h => by cases h
  | (k, u) :: ms, v, h => by
    rw [Members.find?] at h
    split at h
    · obtain rfl := Option.some.inj h
      exact exists_end u
    · exact exists_end_of_find? ms h

end

/-- The text of a scalar is told from where its typed cells end. -/
theorem scalarText_eq_iff {v : Json} {o : Option String} :
    scalarText v = o ↔ ∃ w, Reaches v w ∧ Ends w o := by
  constructor
  · intro h
    obtain ⟨w, o', hreaches, hends⟩ := exists_end v
    obtain rfl := (scalarText_of_reaches hreaches hends).symm.trans h
    exact ⟨w, hreaches, hends⟩
  · rintro ⟨w, hreaches, hends⟩
    exact scalarText_of_reaches hreaches hends

/-! ### Answers -/

/-- What an answer gives. -/
inductive Gives : List Row → Except MaxValueError String → Prop
  | noRows : Gives [] (.error .noRows)
  | tooManyRows {rows : List Row} (h : 2 ≤ rows.length) :
    Gives rows (.error (.tooManyRows rows.length))
  | missingField {row : Row} (h : row.get? Rewriter.maxField = none) :
    Gives [row] (.error (.missingField Rewriter.maxField))
  | notScalar {row : Row} {cell : Json} (hcell : row.get? Rewriter.maxField = some cell)
    (h : scalarText cell = none) : Gives [row] (.error (.notScalar Rewriter.maxField))
  | text {row : Row} {cell : Json} {text : String}
    (hcell : row.get? Rewriter.maxField = some cell) (h : scalarText cell = some text) :
    Gives [row] (.ok (sanitize text))

/-- Every answer gives something. -/
lemma gives_maxValue (rows : List Row) : Gives rows (maxValue rows) := by
  unfold maxValue
  split
  · exact .noRows
  next row =>
    split
    next hcell => exact .missingField hcell
    next cell hcell =>
      split
      next htext => exact .notScalar hcell htext
      next text htext => exact .text hcell htext
  next hnil hone =>
    refine .tooManyRows ?_
    rcases rows with _ | ⟨row, _ | ⟨row', rest⟩⟩
    · exact absurd rfl hnil
    · exact absurd rfl (hone row)
    · exact Nat.le_add_left 2 rest.length

/-- No answer gives anything else. -/
lemma Gives.eq_maxValue {rows : List Row} {result : Except MaxValueError String}
    (h : Gives rows result) : maxValue rows = result := by
  cases h with
  | noRows => rfl
  | @tooManyRows rows h =>
    rcases rows with _ | ⟨row, _ | ⟨row', rest⟩⟩
    · cases h
    · exact absurd h (by simp)
    · rfl
  | missingField h => rw [maxValue, h]
  | notScalar hcell h => simp only [maxValue, hcell, h]
  | text hcell h => simp only [maxValue, hcell, h]

/-- What an answer gives is told from its rows. -/
theorem maxValue_eq_iff {rows : List Row} {result : Except MaxValueError String} :
    maxValue rows = result ↔ Gives rows result :=
  ⟨fun h => h ▸ gives_maxValue rows, Gives.eq_maxValue⟩

/-- The greatest value in an answer is the text of the scalar in the field of its only row. -/
lemma exists_of_maxValue {rows : List Row} {s : String} (h : maxValue rows = .ok s) :
    ∃ row cell text, rows = [row] ∧ row.get? Rewriter.maxField = some cell ∧
      scalarText cell = some text ∧ s = sanitize text := by
  cases maxValue_eq_iff.1 h with
  | text hcell htext => exact ⟨_, _, _, rfl, hcell, htext, rfl⟩

/-- The greatest value that an answer gives is sanitized. -/
lemma sanitize_maxValue {rows : List Row} {s : String} (h : maxValue rows = .ok s) :
    sanitize s = s := by
  obtain ⟨-, -, text, -, -, -, rfl⟩ := exists_of_maxValue h
  exact Query.sanitize_sanitize text

/-! ### The next page -/

/-- A value starts the next page alike in both kinds of plans.  Whatever was asked for before, the
row plan after the value has one more step than the row plan without one, and it comes first: a call
that spells out the filter above this very value over a text, and an object that holds the value
over a tree. -/
def StartsNextPage (s : String) : Prop :=
  ∀ (k : Constraint) (history : List Request),
    let later := pageSteps k.column none k.rowLimit
    (∀ source : String, ∃ front call, Text.EndTrimmed source front ∧
      ((Rewriter.new (.text source) (some k)).after history).answer (.rowPlan (some s))
        = some (.text (front ++ (call ++ String.join (later.map Step.text)))) ∧
      Spells (.whereGreater (sanitize k.column) s) call) ∧
    ∀ (root : Json) (shape : Query.Shape.check root = .ok ()), ∃ object,
      ((Rewriter.new (.tree root shape) (some k)).after history).answer (.rowPlan (some s))
        = some (.tree (Query.Shape.append root (object :: later.map Step.tree))) ∧
      Depicts (.whereGreater k.column s) object

/-- The row plan after a value, whatever was asked for before. -/
lemma answer_rowPlan (base : Base) (k : Constraint) (history : List Request) (s : String) :
    ((Rewriter.new base (some k)).after history).answer (.rowPlan (some s))
      = some (base.plan (.whereGreater k.column s :: pageSteps k.column none k.rowLimit)) := by
  rw [Rewriter.after_eq]
  rfl

/-- A sanitized value starts the next page alike in both kinds of plans. -/
lemma startsNextPage_of_sanitize {s : String} (hs : sanitize s = s) : StartsNextPage s := by
  intro k history
  constructor
  · intro source
    refine ⟨_, (Step.whereGreater k.column s).text, Text.endTrimmed_trimmedEnd source, ?_, ?_⟩
    · rw [answer_rowPlan, Base.plan, List.map_cons, String.join_cons]
    · have hspells := Query.spells_text (.whereGreater k.column s)
      rwa [Step.mapNames, hs] at hspells
  · intro root shape
    refine ⟨(Step.whereGreater k.column s).tree, ?_, Query.depicts_tree _⟩
    rw [answer_rowPlan, Base.plan, List.map_cons]

/-! ### The greatest value -/

/-- A text is sanitized by leaving out quotes and parentheses. -/
lemma eq_sanitize_iff {s text : String} : s = sanitize text ↔
    s.toList = text.toList.filter (· ∉ ['\'', '"', '(', ')']) := by
  have hchars : Query.sanitizeChars text.toList
      = text.toList.filter (· ∉ ['\'', '"', '(', ')']) := by
    refine List.filter_congr fun c _ => ?_
    simp [Query.isForbidden, Bool.and_assoc]
  rw [← hchars, ← String.toList_inj, sanitize, String.toList_ofList]

/-- **An answer has a greatest value exactly if it is one row with a scalar in the right field.**
Of all rows that an engine may answer with: without a row and with several rows there is no greatest
value; in one row there is none if the field is missing or if its typed cells end with nothing that
has a text, and otherwise it is the text of the scalar they end with, without quotes and
parentheses.  To sanitize it again changes nothing, and the next plans of both kinds start from
it. -/
theorem greatest_value_of_one_scalar (rows : List Row) :
    (maxValue rows = .error .noRows ↔ rows = []) ∧
      (∀ n, maxValue rows = .error (.tooManyRows n) ↔ rows.length = n ∧ 2 ≤ n) ∧
      (∀ name, maxValue rows = .error (.missingField name) ↔
        name = "constraint" ∧ ∃ row, rows = [row] ∧ "constraint" ∉ row.names) ∧
      (∀ name, maxValue rows = .error (.notScalar name) ↔
        name = "constraint" ∧ ∃ row cell w, rows = [row] ∧ row.get? "constraint" = some cell ∧
          Reaches cell w ∧ Ends w none) ∧
      (∀ s, maxValue rows = .ok s ↔
        ∃ row cell w text, rows = [row] ∧ row.get? "constraint" = some cell ∧
          Reaches cell w ∧ Ends w (some text) ∧
          s.toList = text.toList.filter (· ∉ ['\'', '"', '(', ')'])) ∧
      ∀ s, maxValue rows = .ok s → sanitize s = s ∧ StartsNextPage s := by
  simp only [maxValue_eq_iff]
  refine ⟨?_, fun n => ?_, fun name => ?_, fun name => ?_, fun s => ?_, fun s hs => ?_⟩
  · constructor
    · rintro ⟨⟩
      rfl
    · rintro rfl
      exact .noRows
  · constructor
    · intro h
      cases h with
      | tooManyRows h => exact ⟨rfl, h⟩
    · rintro ⟨rfl, h⟩
      exact .tooManyRows h
  · constructor
    · intro h
      cases h with
      | missingField h => exact ⟨rfl, _, rfl, Members.find?_eq_none_iff.1 h⟩
    · rintro ⟨rfl, row, rfl, h⟩
      exact .missingField (Members.find?_eq_none_iff.2 h)
  · constructor
    · intro h
      cases h with
      | notScalar hcell h =>
        obtain ⟨w, hreaches, hends⟩ := scalarText_eq_iff.1 h
        exact ⟨rfl, _, _, w, rfl, hcell, hreaches, hends⟩
    · rintro ⟨rfl, row, cell, w, rfl, hcell, hreaches, hends⟩
      exact .notScalar hcell (scalarText_of_reaches hreaches hends)
  · constructor
    · intro h
      cases h with
      | text hcell h =>
        obtain ⟨w, hreaches, hends⟩ := scalarText_eq_iff.1 h
        exact ⟨_, _, w, _, rfl, hcell, hreaches, hends, eq_sanitize_iff.1 rfl⟩
    · rintro ⟨row, cell, w, text, rfl, hcell, hreaches, hends, hs⟩
      rw [eq_sanitize_iff.2 hs]
      exact .text hcell (scalarText_of_reaches hreaches hends)
  · have hclean := sanitize_maxValue (maxValue_eq_iff.2 hs)
    exact ⟨hclean, startsNextPage_of_sanitize hclean⟩

/-- A row whose field holds a name in a typed cell in another one. -/
def cellInCell : Row :=
  ⟨[("constraint", .object [("type", .string "sem:iri"),
    ("value", .object [("type", .string "xs:string"), ("value", .string "o'brien (jr)")])])]⟩

/-- The greatest value is found in the inner cell. -/
theorem greatest_value_of_cell_in_cell :
    maxValue [cellInCell] = .ok "obrien jr" ∧ StartsNextPage "obrien jr" := by
  obtain ⟨-, -, -, -, htext, hnext⟩ := greatest_value_of_one_scalar [cellInCell]
  have hvalue : maxValue [cellInCell] = .ok "obrien jr" := by
    refine (htext _).2 ⟨cellInCell, _, .string "o'brien (jr)", _, rfl, rfl, ?_, .string _, ?_⟩
    · exact .cell rfl (.cell rfl (.here _))
    · decide
  exact ⟨hvalue, (hnext _ hvalue).2⟩

end Engine

end Tidemark
