import Mathlib.Data.List.Infix
import Tidemark.Proofs.Query.Extension
import Tidemark.Proofs.Text.Decimal

/-!
# Reading the steps of a plan

An engine knows the base query and finds the steps of a plan after it.  In a text it reads method
calls whose literals run up to the next single quote (`Reader.steps`); in a tree it reads objects
at the end of the array of steps (`Reader.stepTree`).  What a job appends is read back step by step
(`reads_plan`): verbatim from a tree, and with sanitized names and values from a text, whatever the
names and values are.
-/

namespace Tidemark.Query

/-- A step with its names and values changed. -/
def Step.mapNames (f : String → String) : Step → Step
  | .whereGreater column value => .whereGreater (f column) (f value)
  | .orderBy direction column => .orderBy direction (f column)
  | .limit count => .limit count
  | .selectAs field column => .selectAs (f field) (f column)

namespace Reader

/-! ### Reading text -/

/-- The characters of a fixed part of a call. -/
@[irreducible] def word (s : String) : List Char :=
  s.toList

/-- The characters after a word. -/
def after (s : String) (cs : List Char) : Option (List Char) :=
  if (word s).isPrefixOf cs then some (cs.drop (word s).length) else none

/-- A literal: any characters between two single quotes. -/
def literal (cs : List Char) : Option (String × List Char) := do
  let cs ← after "'" cs
  let rest ← after "'" (cs.dropWhile (· ≠ '\''))
  return (String.ofList (cs.takeWhile (· ≠ '\'')), rest)

/-- A reference to a column. -/
def column (cs : List Char) : Option (String × List Char) := do
  let cs ← after "op.col(" cs
  let (name, cs) ← literal cs
  let cs ← after ")" cs
  return (name, cs)

/-- A count in decimal. -/
def count (cs : List Char) : Option (UInt64 × List Char) :=
  match Text.Count.readChars (cs.takeWhile Char.isDigit) with
  | .ok n => some (UInt64.ofNat n, cs.dropWhile Char.isDigit)
  | .error _ => none

/-- A call that keeps the rows above a value. -/
def whereGreater (cs : List Char) : Option (Step × List Char) := do
  let cs ← after ".where(op.gt(" cs
  let (name, cs) ← column cs
  let cs ← after ", " cs
  let (value, cs) ← literal cs
  let cs ← after "))" cs
  return (.whereGreater name value, cs)

/-- A call that sorts. -/
def orderBy (direction : Direction) (cs : List Char) : Option (Step × List Char) := do
  let cs ← after (".orderBy(op." ++ direction.operator ++ "(") cs
  let (name, cs) ← column cs
  let cs ← after "))" cs
  return (.orderBy direction name, cs)

/-- A call that cuts off. -/
def limit (cs : List Char) : Option (Step × List Char) := do
  let cs ← after ".limit(" cs
  let (n, cs) ← count cs
  let cs ← after ")" cs
  return (.limit n, cs)

/-- A call that projects. -/
def selectAs (cs : List Char) : Option (Step × List Char) := do
  let cs ← after ".select(op.as(" cs
  let (field, cs) ← literal cs
  let cs ← after ", " cs
  let (name, cs) ← column cs
  let cs ← after "))" cs
  return (.selectAs field name, cs)

/-- A call. -/
def step (cs : List Char) : Option (Step × List Char) :=
  whereGreater cs <|> orderBy .ascending cs <|> orderBy .descending cs <|> limit cs <|> selectAs cs

/-- At most so many calls, up to the end of the text. -/
def stepsWithin : ℕ → List Char → Option (List Step)
  | _, [] => some []
  | 0, _ :: _ => none
  | n + 1, c :: cs => do
    let (s, rest) ← step (c :: cs)
    let ss ← stepsWithin n rest
    return s :: ss

/-- Calls up to the end of the text; there are no more calls than characters. -/
def steps (cs : List Char) : Option (List Step) :=
  stepsWithin cs.length cs

/-! ### The text of a call -/

/-- A literal as it is written. -/
def quoted (s : String) : List Char :=
  word "'" ++ (word s ++ word "'")

/-- A reference to a column as it is written. -/
def columnChars (name : String) : List Char :=
  word "op.col(" ++ (quoted name ++ word ")")

/-- A call as it is written. -/
def written : Step → List Char
  | .whereGreater name value =>
    word ".where(op.gt(" ++ (columnChars name ++ (word ", " ++ (quoted value ++ word "))")))
  | .orderBy direction name =>
    word (".orderBy(op." ++ direction.operator ++ "(") ++ (columnChars name ++ word "))")
  | .limit n => word ".limit(" ++ (Text.Count.digits n.toNat ++ word ")")
  | .selectAs field name =>
    word ".select(op.as(" ++ (quoted field ++ (word ", " ++ (columnChars name ++ word "))")))

/-- A text without single quotes can stand in a literal. -/
def Unquoted (s : String) : Prop :=
  '\'' ∉ word s

/-- The names and values of a step can stand in literals. -/
def Writable : Step → Prop
  | .whereGreater name value => Unquoted name ∧ Unquoted value
  | .orderBy _ name => Unquoted name
  | .limit _ => True
  | .selectAs field name => Unquoted field ∧ Unquoted name

lemma word_injective : Function.Injective word := by
  intro s s' h
  unfold word at h
  exact String.toList_injective h

lemma word_append (s s' : String) : word (s ++ s') = word s ++ word s' := by
  unfold word
  exact String.toList_append

lemma word_ofList (cs : List Char) : word (String.ofList cs) = cs := by
  unfold word
  exact String.toList_ofList

lemma word_literal (s : String) : word (Step.literal s) = quoted (sanitize s) := by
  rw [Step.literal, word_append, word_append, quoted, List.append_assoc]

lemma word_columnText (name : String) :
    word (Step.columnText name) = columnChars (sanitize name) := by
  rw [Step.columnText, word_append, word_append, word_literal, columnChars, List.append_assoc]

/-- The text of a step is written with sanitized names and values. -/
lemma word_text (s : Step) : word s.text = written (s.mapNames sanitize) := by
  cases s with
  | whereGreater name value =>
    have htext : (Step.whereGreater name value).text = ".where(op.gt(" ++ Step.columnText name
        ++ ", " ++ Step.literal value ++ "))" := rfl
    rw [htext]
    simp only [written, Step.mapNames, word_append, word_literal, word_columnText,
      List.append_assoc]
  | orderBy direction name =>
    have htext : (Step.orderBy direction name).text = ".orderBy(op." ++ direction.operator ++ "("
        ++ Step.columnText name ++ "))" := rfl
    rw [htext]
    simp only [written, Step.mapNames, word_append, word_columnText, List.append_assoc]
  | limit n =>
    have htext : (Step.limit n).text = ".limit(" ++ Text.Count.render n ++ ")" := rfl
    rw [htext]
    simp only [written, Step.mapNames, Text.Count.render, word_append, word_ofList,
      List.append_assoc]
  | selectAs field name =>
    have htext : (Step.selectAs field name).text = ".select(op.as(" ++ Step.literal field ++ ", "
        ++ Step.columnText name ++ "))" := rfl
    rw [htext]
    simp only [written, Step.mapNames, word_append, word_literal, word_columnText,
      List.append_assoc]

/-- A sanitized text has no single quotes. -/
lemma unquoted_sanitize (s : String) : Unquoted (sanitize s) := by
  intro hmem
  rw [sanitize, word_ofList] at hmem
  have hforbidden := not_isForbidden_of_mem_sanitizeChars hmem
  exact absurd hforbidden (by decide)

lemma writable_mapNames_sanitize (s : Step) : Writable (s.mapNames sanitize) := by
  cases s with
  | whereGreater name value => exact ⟨unquoted_sanitize name, unquoted_sanitize value⟩
  | orderBy direction name => exact unquoted_sanitize name
  | limit n => exact trivial
  | selectAs field name => exact ⟨unquoted_sanitize field, unquoted_sanitize name⟩

/-! ### Reading what was written -/

/-- What comes after a word is found. -/
lemma after_word (s : String) (rest : List Char) : after s (word s ++ rest) = some rest := by
  simp [after]

/-- A word is not found where the text begins in another way. -/
lemma after_eq_none {s s' : String} (n : ℕ) (hs : n ≤ s.toList.length) (hs' : n ≤ s'.toList.length)
    (h : s.toList.take n ≠ s'.toList.take n) (rest : List Char) :
    after s (word s' ++ rest) = none := by
  unfold after word
  rw [if_neg]
  intro hprefix
  have hstart : s.toList <+: s'.toList ++ rest := List.isPrefixOf_iff_prefix.1 hprefix
  have htake : s.toList.take n <+: (s'.toList ++ rest).take n := hstart.take n
  rw [List.take_append_of_le_length hs'] at htake
  exact h (htake.eq_of_length (by simp [hs, hs']))

/-- A literal is read up to its closing quote. -/
lemma literal_quoted {s : String} (h : Unquoted s) (rest : List Char) :
    literal (quoted s ++ rest) = some (s, rest) := by
  have hquote : ∀ c ∈ word s, (decide (c ≠ '\'')) = true := by
    intro c hc
    rw [decide_eq_true_eq]
    rintro rfl
    exact h hc
  have hclose : word "'" ++ rest = '\'' :: rest := by
    unfold word
    rfl
  have htake : (word s ++ (word "'" ++ rest)).takeWhile (· ≠ '\'') = word s := by
    rw [hclose, List.takeWhile_append_of_pos hquote]
    simp
  have hdrop : (word s ++ (word "'" ++ rest)).dropWhile (· ≠ '\'') = word "'" ++ rest := by
    rw [hclose, List.dropWhile_append_of_pos hquote]
    simp
  have hname : String.ofList (word s) = s := by
    unfold word
    exact String.ofList_toList
  rw [literal, quoted, List.append_assoc, List.append_assoc, after_word]
  simp only [Option.bind_eq_bind, Option.bind_some, htake, hdrop, after_word, hname]
  rfl

/-- A reference to a column is read. -/
lemma column_columnChars {name : String} (h : Unquoted name) (rest : List Char) :
    column (columnChars name ++ rest) = some (name, rest) := by
  rw [column, columnChars, List.append_assoc, List.append_assoc, after_word]
  simp only [Option.bind_eq_bind, Option.bind_some, literal_quoted h, after_word]
  rfl

/-- A count is read up to the next character that is no digit, leading zeros or not. -/
lemma count_append {ds : List Char} (hds : ∀ c ∈ ds, c.isDigit = true) (hne : ds ≠ []) {n : UInt64}
    (hn : Nat.ofDigitChars 10 ds 0 = n.toNat) {rest : List Char}
    (hrest : ∀ c ∈ rest.head?, c.isDigit = false) : count (ds ++ rest) = some (n, rest) := by
  have htake : (ds ++ rest).takeWhile Char.isDigit = ds := by
    rw [List.takeWhile_append_of_pos hds]
    cases rest with
    | nil => simp
    | cons c cs => simp [hrest c (by simp)]
  have hdrop : (ds ++ rest).dropWhile Char.isDigit = rest := by
    rw [List.dropWhile_append_of_pos hds]
    cases rest with
    | nil => rfl
    | cons c cs => simp [hrest c (by simp)]
  have hread : Text.Count.readChars ds = .ok n.toNat := by
    rw [← hn]
    exact Text.Count.readChars_of_isDigit hds hne (hn ▸ Text.Count.toNat_lt_bound n)
  rw [count, htake, hdrop, hread]
  simp

lemma whereGreater_written {name value : String} (hname : Unquoted name) (hvalue : Unquoted value)
    (rest : List Char) :
    whereGreater (written (.whereGreater name value) ++ rest)
      = some (.whereGreater name value, rest) := by
  simp only [whereGreater, written, List.append_assoc, after_word, Option.bind_eq_bind,
    Option.bind_some, column_columnChars hname, literal_quoted hvalue]
  rfl

lemma orderBy_written (direction : Direction) {name : String} (hname : Unquoted name)
    (rest : List Char) :
    orderBy direction (written (.orderBy direction name) ++ rest)
      = some (.orderBy direction name, rest) := by
  simp only [orderBy, written, List.append_assoc, after_word, Option.bind_eq_bind,
    Option.bind_some, column_columnChars hname]
  rfl

/-- A call that cuts off is read, in whatever digits its count is written. -/
lemma limit_digits {ds : List Char} (hds : ∀ c ∈ ds, c.isDigit = true) (hne : ds ≠ []) {n : UInt64}
    (hn : Nat.ofDigitChars 10 ds 0 = n.toNat) (rest : List Char) :
    limit (word ".limit(" ++ (ds ++ (word ")" ++ rest))) = some (.limit n, rest) := by
  have hclose : word ")" ++ rest = ')' :: rest := by
    unfold word
    rfl
  have hcount : count (ds ++ (word ")" ++ rest)) = some (n, word ")" ++ rest) := by
    refine count_append hds hne hn ?_
    rw [hclose]
    rintro c ⟨rfl⟩
    decide
  simp only [limit, after_word, Option.bind_eq_bind, Option.bind_some, hcount]
  rfl

lemma selectAs_written {field name : String} (hfield : Unquoted field) (hname : Unquoted name)
    (rest : List Char) :
    selectAs (written (.selectAs field name) ++ rest) = some (.selectAs field name, rest) := by
  simp only [selectAs, written, List.append_assoc, after_word, Option.bind_eq_bind,
    Option.bind_some, literal_quoted hfield, column_columnChars hname]
  rfl

/-- A call that cuts off is not taken for another kind of call. -/
lemma step_digits {ds : List Char} (hds : ∀ c ∈ ds, c.isDigit = true) (hne : ds ≠ []) {n : UInt64}
    (hn : Nat.ofDigitChars 10 ds 0 = n.toNat) (rest : List Char) :
    step (word ".limit(" ++ (ds ++ (word ")" ++ rest))) = some (.limit n, rest) := by
  have hwhere : whereGreater (word ".limit(" ++ (ds ++ (word ")" ++ rest))) = none := by
    rw [whereGreater, after_eq_none 2 (by decide) (by decide) (by decide)]
    rfl
  have horder : ∀ direction,
      orderBy direction (word ".limit(" ++ (ds ++ (word ")" ++ rest))) = none := by
    intro direction
    rw [orderBy, after_eq_none 2]
    · rfl
    all_goals cases direction <;> decide
  rw [step, hwhere, horder, horder, limit_digits hds hne hn]
  rfl

/-- A call is read back, and not taken for another kind of call. -/
lemma step_written {s : Step} (h : Writable s) (rest : List Char) :
    step (written s ++ rest) = some (s, rest) := by
  cases s with
  | whereGreater name value =>
    rw [step, whereGreater_written h.1 h.2]
    rfl
  | orderBy direction name =>
    have hwhere : whereGreater (written (.orderBy direction name) ++ rest) = none := by
      rw [whereGreater, written, List.append_assoc, after_eq_none 2 (by decide)]
      · rfl
      · cases direction <;> decide
      · cases direction <;> decide
    cases direction with
    | ascending =>
      rw [step, hwhere, orderBy_written .ascending h]
      rfl
    | descending =>
      have hasc : orderBy .ascending (written (.orderBy .descending name) ++ rest) = none := by
        rw [orderBy, written, List.append_assoc,
          after_eq_none 13 (by decide) (by decide) (by decide)]
        rfl
      rw [step, hwhere, hasc, orderBy_written .descending h]
      rfl
  | limit n =>
    rw [written, List.append_assoc, List.append_assoc]
    exact step_digits (fun c hc => Nat.isDigit_of_mem_toDigits (by decide) (by decide) hc)
      Nat.toDigits_ne_nil (Nat.ofDigitChars_toDigits (by decide) (by decide)) rest
  | selectAs field name =>
    have hwhere : whereGreater (written (.selectAs field name) ++ rest) = none := by
      rw [whereGreater, written, List.append_assoc, after_eq_none 2 (by decide) (by decide)
        (by decide)]
      rfl
    have horder :
        ∀ direction, orderBy direction (written (.selectAs field name) ++ rest) = none := by
      intro direction
      rw [orderBy, written, List.append_assoc, after_eq_none 2]
      · rfl
      all_goals cases direction <;> decide
    have hlimit : limit (written (.selectAs field name) ++ rest) = none := by
      rw [limit, written, List.append_assoc, after_eq_none 2 (by decide) (by decide) (by decide)]
      rfl
    rw [step, hwhere, horder, horder, hlimit, selectAs_written h.1 h.2]
    rfl

/-- A call has at least one character. -/
lemma written_ne_nil (s : Step) : written s ≠ [] := by
  cases s <;> simp [written, word]

/-- Calls are read back, one after the other. -/
lemma stepsWithin_written {ss : List Step} (h : ∀ s ∈ ss, Writable s) {n : ℕ}
    (hn : ss.length ≤ n) : stepsWithin n (ss.flatMap written) = some ss := by
  induction ss generalizing n with
  | nil => cases n <;> rfl
  | cons s ss ih =>
    obtain ⟨n, rfl⟩ : ∃ m, n = m + 1 := Nat.exists_eq_add_one_of_ne_zero (by
      rintro rfl
      simp at hn)
    have hlater : stepsWithin n (ss.flatMap written) = some ss :=
      ih (fun s' hs' => h s' (List.mem_cons_of_mem s hs')) (Nat.le_of_succ_le_succ hn)
    have hfirst : step (written s ++ ss.flatMap written) = some (s, ss.flatMap written) :=
      step_written (h s List.mem_cons_self) _
    obtain ⟨c, cs, hcons⟩ := List.exists_cons_of_ne_nil (written_ne_nil s)
    rw [List.flatMap_cons]
    rw [hcons, List.cons_append] at hfirst ⊢
    simp only [stepsWithin, hfirst, Option.bind_eq_bind, Option.bind_some, hlater]
    rfl

/-- There are no more calls than characters. -/
lemma length_le_flatMap_written (ss : List Step) : ss.length ≤ (ss.flatMap written).length := by
  induction ss with
  | nil => exact Nat.zero_le _
  | cons s ss ih =>
    have hpos : 0 < (written s).length := List.length_pos_of_ne_nil (written_ne_nil s)
    rw [List.flatMap_cons, List.length_append, List.length_cons]
    omega

/-- A text of calls is read as these calls. -/
theorem steps_written {ss : List Step} (h : ∀ s ∈ ss, Writable s) :
    steps (ss.flatMap written) = some ss :=
  stepsWithin_written h (length_le_flatMap_written ss)

/-- The text of steps is written with sanitized names and values. -/
lemma word_join (ss : List Step) :
    word (String.join (ss.map Step.text)) = (ss.map (Step.mapNames sanitize)).flatMap written := by
  induction ss with
  | nil => exact word_ofList []
  | cons s ss ih =>
    rw [List.map_cons, String.join_cons, word_append, ih, word_text]
    rfl

/-- The text that a job appends to its base query is read as its steps, with sanitized names and
values. -/
theorem steps_word_join (ss : List Step) :
    steps (word (String.join (ss.map Step.text))) = some (ss.map (Step.mapNames sanitize)) := by
  rw [word_join]
  refine steps_written ?_
  intro s hs
  obtain ⟨s', -, rfl⟩ := List.mem_map.1 hs
  exact writable_mapNames_sanitize s'

/-! ### Reading trees -/

/-- The arguments of an operator that is applied in a tree. -/
def callTree (name : String) (v : Json) : Option (List Json) :=
  match v.member? "ns", v.member? "fn", v.member? "args" with
  | some (.string ns), some (.string fn), some (.array args) =>
    if ns = "op" ∧ fn = name then some args else none
  | _, _, _ => none

/-- The name in a reference to a column. -/
def columnTree (v : Json) : Option String :=
  match callTree "col" v with
  | some [.string name] => some name
  | _ => none

/-- An object that keeps the rows above a value. -/
def whereTree (v : Json) : Option Step :=
  match callTree "where" v with
  | some [condition] =>
    match callTree "gt" condition with
    | some [col, .string value] => (columnTree col).map (Step.whereGreater · value)
    | _ => none
  | _ => none

/-- An object that sorts. -/
def orderTree (direction : Direction) (v : Json) : Option Step :=
  match callTree "order-by" v with
  | some [key] =>
    match callTree direction.operator key with
    | some [col] => (columnTree col).map (Step.orderBy direction)
    | _ => none
  | _ => none

/-- An object that cuts off. -/
def limitTree (v : Json) : Option Step :=
  match callTree "limit" v with
  | some [.number (.integer n)] =>
    if 0 ≤ n ∧ n < Text.Count.bound then some (.limit (UInt64.ofNat n.toNat)) else none
  | _ => none

/-- An object that projects. -/
def selectTree (v : Json) : Option Step :=
  match callTree "select" v with
  | some [.array [item]] =>
    match callTree "as" item with
    | some [.string field, col] => (columnTree col).map (Step.selectAs field)
    | _ => none
  | _ => none

/-- An object in the array of steps. -/
def stepTree (v : Json) : Option Step :=
  whereTree v <|> orderTree .ascending v <|> orderTree .descending v <|> limitTree v
    <|> selectTree v

lemma callTree_call (name name' : String) (args : List Json) :
    callTree name (Step.call name' args) = if name' = name then some args else none := by
  simp [callTree, Step.call, Json.member?, Members.find?]

lemma columnTree_columnTree (name : String) : columnTree (Step.columnTree name) = some name := by
  simp [columnTree, Step.columnTree, callTree_call]

/-- An object that a job appends is read as its step. -/
lemma stepTree_tree (s : Step) : stepTree s.tree = some s := by
  cases s with
  | whereGreater name value =>
    simp [stepTree, Step.tree, whereTree, callTree_call, columnTree_columnTree]
  | orderBy direction name =>
    cases direction <;>
      simp [stepTree, Step.tree, whereTree, orderTree, callTree_call, columnTree_columnTree,
        Direction.operator]
  | limit n =>
    have hbound : (n.toNat : Int) < Text.Count.bound := by
      exact_mod_cast Text.Count.toNat_lt_bound n
    simp [stepTree, Step.tree, whereTree, orderTree, limitTree, callTree_call, Json.ofInt, hbound]
  | selectAs field name =>
    simp [stepTree, Step.tree, whereTree, orderTree, limitTree, selectTree, callTree_call,
      columnTree_columnTree]

/-- The objects that a job appends are read as its steps. -/
lemma mapM_stepTree_tree (ss : List Step) : (ss.map Step.tree).mapM stepTree = some ss := by
  induction ss with
  | nil => rfl
  | cons s ss ih => simp [List.mapM_cons, stepTree_tree, ih]

end Reader

namespace Base

/-- A name or value as an engine finds it in a plan. -/
def name : Base → String → String
  | .text _, s => sanitize s
  | .tree _ _, s => s

/-- An engine that knows the base query reads the steps of a plan. -/
def Reads : Base → Plan → List Step → Prop
  | .text source, .text query, ss => ∃ suffix,
    Reader.word query = Reader.word (Text.trimmedEnd source) ++ suffix ∧
      Reader.steps suffix = some ss
  | .tree root _, .tree plan, ss => ∃ items,
    plan = Shape.append root items ∧ items.mapM Reader.stepTree = some ss
  | _, _, _ => False

/-- The steps of a plan over a base query that is given as text. -/
def stepsAfter (source : String) : Plan → Option (List Step)
  | .text query => (Reader.after (Text.trimmedEnd source) (Reader.word query)).bind Reader.steps
  | .tree _ => none

/-- There is one way to read the steps after a text. -/
lemma Reads.stepsAfter_eq {source : String} {plan : Plan} {ss : List Step}
    (h : (Base.text source).Reads plan ss) : stepsAfter source plan = some ss := by
  cases plan with
  | text query =>
    obtain ⟨suffix, hquery, hsteps⟩ := h
    rw [stepsAfter, hquery, Reader.after_word, Option.bind_some, hsteps]
  | tree plan => exact h.elim

/-- The steps of a plan over a base query that is given as a tree. -/
def stepsBeyond (root : Json) : Plan → Option (List Step)
  | .text _ => none
  | .tree plan => do
    let own ← Shape.steps? root
    let all ← Shape.steps? plan
    (all.drop own.length).mapM Reader.stepTree

/-- There is one way to read the steps at the end of a tree. -/
lemma Reads.stepsBeyond_eq {root : Json} {shape : Shape.check root = .ok ()} {plan : Plan}
    {ss : List Step} (h : (Base.tree root shape).Reads plan ss) :
    stepsBeyond root plan = some ss := by
  cases plan with
  | text query => exact h.elim
  | tree plan =>
    obtain ⟨items, rfl, hsteps⟩ := h
    obtain ⟨own, hown, hall⟩ := Shape.steps?_append shape items
    simp only [stepsBeyond, hown, hall, Option.bind_eq_bind, Option.bind_some, List.drop_left,
      hsteps]

/-- **The steps of a plan are read back**: verbatim from a tree, and with sanitized names and values
from a text. -/
theorem reads_plan (base : Base) (ss : List Step) :
    base.Reads (base.plan ss) (ss.map (Step.mapNames base.name)) := by
  cases base with
  | text source =>
    exact ⟨_, Reader.word_append _ _, Reader.steps_word_join ss⟩
  | tree root shape =>
    have hverbatim : ss.map (Step.mapNames (Base.tree root shape).name) = ss := by
      have hid : ∀ s : Step, s.mapNames (Base.tree root shape).name = s := by
        intro s
        cases s <;> rfl
      rw [List.map_congr_left fun s _ => hid s, List.map_id']
    rw [hverbatim]
    exact ⟨_, rfl, Reader.mapM_stepTree_tree ss⟩

end Base

end Tidemark.Query
