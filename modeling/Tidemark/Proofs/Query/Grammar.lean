import Tidemark.Proofs.Engine.Evaluation
import Tidemark.Proofs.Query.Reading

/-!
# The grammar of appended text

What a job appends to a query text is a sequence of method calls.  `Spells` gives each call as one
template, in which a literal is any text without single quotes and a count is any digits, and
`Spelled` puts calls one after the other.  A literal may well look like a later call, so it is not
plain that a text has one reading.  The reader of `Tidemark.Proofs.Query.Reading` decides it: it
takes each call at its first character and returns what the template says (`Spells.step_eq`), so a
text that is spelled out in some way is read in that way (`Spelled.steps_eq`), and in no other
(`Spelled.unique`).  A rendered step is spelled out with sanitized names and values
(`spells_text`).

So the plans of a job tell what they were built from: the text after the base query has exactly one
reading (`rowPlan_one_reading`), and different sanitized inputs give different plans.
-/

namespace Tidemark.Query

open Engine (pageSteps greatestSteps)
open Reader (word Unquoted)

/-! ### Calls -/

/-- A call in the text of a query. -/
inductive Spells : Step → String → Prop
  | whereGreater {name value : String} (hname : Unquoted name) (hvalue : Unquoted value) :
    Spells (.whereGreater name value)
      (".where(op.gt(op.col('" ++ name ++ "'), '" ++ value ++ "'))")
  | ascending {name : String} (hname : Unquoted name) :
    Spells (.orderBy .ascending name) (".orderBy(op.asc(op.col('" ++ name ++ "')))")
  | descending {name : String} (hname : Unquoted name) :
    Spells (.orderBy .descending name) (".orderBy(op.desc(op.col('" ++ name ++ "')))")
  | limit {ds : List Char} {n : UInt64} (hds : ∀ c ∈ ds, c.isDigit = true) (hne : ds ≠ [])
    (hn : Nat.ofDigitChars 10 ds 0 = n.toNat) :
    Spells (.limit n) (".limit(" ++ String.ofList ds ++ ")")
  | selectAs {field name : String} (hfield : Unquoted field) (hname : Unquoted name) :
    Spells (.selectAs field name) (".select(op.as('" ++ field ++ "', op.col('" ++ name ++ "')))")

/-- Calls in the text of a query, one after the other. -/
inductive Spelled : List Step → String → Prop
  | nil : Spelled [] ""
  | cons {s : Step} {ss : List Step} {front rest : String} (hfront : Spells s front)
    (hrest : Spelled ss rest) : Spelled (s :: ss) (front ++ rest)

/-! ### One reading -/

section Templates

variable (field name value : String)

/-- The template of a filter is the call as the reader knows it. -/
lemma word_whereGreater :
    word (".where(op.gt(op.col('" ++ name ++ "'), '" ++ value ++ "'))")
      = Reader.written (.whereGreater name value) := by
  have hopen : ".where(op.gt(op.col('" = ".where(op.gt(" ++ ("op.col(" ++ "'") := rfl
  have hbetween : "'), '" = "'" ++ (")" ++ (", " ++ "'")) := rfl
  have hclose : "'))" = "'" ++ "))" := rfl
  rw [hopen, hbetween, hclose]
  simp only [Reader.written, Reader.columnChars, Reader.quoted, Reader.word_append,
    List.append_assoc]

/-- The templates of a sort are the calls as the reader knows them. -/
lemma word_orderBy (front : String) (direction : Direction)
    (hfront : front = ".orderBy(op." ++ direction.operator ++ "(op.col('") :
    word (front ++ name ++ "')))") = Reader.written (.orderBy direction name) := by
  have hopen : "(op.col('" = "(" ++ ("op.col(" ++ "'") := rfl
  have hclose : "')))" = "'" ++ (")" ++ "))") := rfl
  rw [hfront, hopen, hclose]
  simp only [Reader.written, Reader.columnChars, Reader.quoted, Reader.word_append,
    List.append_assoc]

/-- The template of a projection is the call as the reader knows it. -/
lemma word_selectAs :
    word (".select(op.as('" ++ field ++ "', op.col('" ++ name ++ "')))")
      = Reader.written (.selectAs field name) := by
  have hopen : ".select(op.as('" = ".select(op.as(" ++ "'" := rfl
  have hbetween : "', op.col('" = "'" ++ (", " ++ ("op.col(" ++ "'")) := rfl
  have hclose : "')))" = "'" ++ (")" ++ "))") := rfl
  rw [hopen, hbetween, hclose]
  simp only [Reader.written, Reader.columnChars, Reader.quoted, Reader.word_append,
    List.append_assoc]

end Templates

/-- A call at the beginning of a text is read, whatever comes after it. -/
lemma Spells.step_eq {s : Step} {front : String} (h : Spells s front) (rest : List Char) :
    Reader.step (word front ++ rest) = some (s, rest) := by
  cases h with
  | @whereGreater name value hname hvalue =>
    rw [word_whereGreater]
    exact Reader.step_written (s := .whereGreater name value) ⟨hname, hvalue⟩ rest
  | @ascending name hname =>
    rw [word_orderBy name ".orderBy(op.asc(op.col('" .ascending rfl]
    exact Reader.step_written (s := .orderBy .ascending name) hname rest
  | @descending name hname =>
    rw [word_orderBy name ".orderBy(op.desc(op.col('" .descending rfl]
    exact Reader.step_written (s := .orderBy .descending name) hname rest
  | @limit ds n hds hne hn =>
    rw [Reader.word_append, Reader.word_append, Reader.word_ofList ds, List.append_assoc,
      List.append_assoc]
    exact Reader.step_digits hds hne hn rest
  | @selectAs field name hfield hname =>
    rw [word_selectAs]
    exact Reader.step_written (s := .selectAs field name) ⟨hfield, hname⟩ rest

/-- A call has at least one character. -/
lemma Spells.word_ne_nil {s : Step} {front : String} (h : Spells s front) : word front ≠ [] := by
  intro hnil
  have hstep := h.step_eq []
  rw [hnil, List.append_nil] at hstep
  have hnone : Reader.step [] = none := by
    simp [Reader.step, Reader.whereGreater, Reader.orderBy, Reader.limit, Reader.selectAs,
      Reader.after, Reader.word]
  rw [hnone] at hstep
  cases hstep

/-- A text is read as the calls that spell it, if there are at least as many to take. -/
lemma Spelled.stepsWithin_eq {ss : List Step} {text : String} (h : Spelled ss text) {n : ℕ}
    (hn : (word text).length ≤ n) : Reader.stepsWithin n (word text) = some ss := by
  induction h generalizing n with
  | nil => cases n <;> simp [Reader.stepsWithin, Reader.word]
  | @cons s ss front rest hfront hrest ih =>
    rw [Reader.word_append] at hn ⊢
    have hstep := hfront.step_eq (word rest)
    obtain ⟨c, cs, hcons⟩ := List.exists_cons_of_ne_nil hfront.word_ne_nil
    rw [hcons, List.cons_append, List.length_cons, List.length_append] at hn
    rw [hcons, List.cons_append] at hstep ⊢
    obtain ⟨m, rfl⟩ : ∃ m, n = m + 1 := ⟨n - 1, by omega⟩
    have hlater : Reader.stepsWithin m (word rest) = some ss := ih (by omega)
    simp only [Reader.stepsWithin, hstep, Option.bind_eq_bind, Option.bind_some, hlater]
    rfl

/-- A text is read as the calls that spell it. -/
theorem Spelled.steps_eq {ss : List Step} {text : String} (h : Spelled ss text) :
    Reader.steps (word text) = some ss :=
  h.stepsWithin_eq (Nat.le_refl _)

/-- **A text is spelled by one list of calls**, although a literal in it may look like a call. -/
theorem Spelled.unique {ss ss' : List Step} {text : String} (h : Spelled ss text)
    (h' : Spelled ss' text) : ss = ss' := by
  have hread := h.steps_eq
  rw [h'.steps_eq] at hread
  exact (Option.some.inj hread).symm

/-! ### Rendered steps -/

/-- A rendered step is spelled out, with sanitized names and values. -/
lemma spells_text (s : Step) : Spells (s.mapNames sanitize) s.text := by
  -- a rendered step and its template are the same characters
  have htemplate : ∀ {template : String},
      word template = Reader.written (s.mapNames sanitize) → s.text = template := by
    intro template h
    exact Reader.word_injective ((Reader.word_text s).trans h.symm)
  cases s with
  | whereGreater name value =>
    rw [htemplate (word_whereGreater (sanitize name) (sanitize value))]
    exact .whereGreater (Reader.unquoted_sanitize name) (Reader.unquoted_sanitize value)
  | orderBy direction name =>
    cases direction with
    | ascending =>
      rw [htemplate (word_orderBy (sanitize name) ".orderBy(op.asc(op.col('" .ascending rfl)]
      exact .ascending (Reader.unquoted_sanitize name)
    | descending =>
      rw [htemplate (word_orderBy (sanitize name) ".orderBy(op.desc(op.col('" .descending rfl)]
      exact .descending (Reader.unquoted_sanitize name)
  | limit n =>
    exact .limit (fun c hc => Nat.isDigit_of_mem_toDigits (by decide) (by decide) hc)
      Nat.toDigits_ne_nil (Nat.ofDigitChars_toDigits (by decide) (by decide))
  | selectAs field name =>
    rw [htemplate (word_selectAs (sanitize field) (sanitize name))]
    exact .selectAs (Reader.unquoted_sanitize field) (Reader.unquoted_sanitize name)

/-- A value that looks like the end of one call and a call of its own stays a value. -/
example : (Step.whereGreater "ID" "6')).limit(1").text
    = ".where(op.gt(op.col('ID'), '6.limit1'))" :=
  rfl

/-- Rendered steps are spelled out. -/
lemma spelled_join (ss : List Step) :
    Spelled (ss.map (Step.mapNames sanitize)) (String.join (ss.map Step.text)) := by
  induction ss with
  | nil => exact .nil
  | cons s ss ih =>
    rw [List.map_cons, List.map_cons, String.join_cons]
    exact .cons (spells_text s) ih

/-- Rendered steps have one reading. -/
theorem spelled_join_iff {ss ss' : List Step} :
    Spelled ss' (String.join (ss.map Step.text)) ↔ ss' = ss.map (Step.mapNames sanitize) := by
  constructor
  · intro h
    exact h.unique (spelled_join ss)
  · rintro rfl
    exact spelled_join ss

/-! ### The plans of a job -/

/-- A plan is a base query, without its blank end, and a text after it that has one reading. -/
def OneReading (source : String) (plan : Plan) (ss : List Step) : Prop :=
  ∃ front suffix, Text.EndTrimmed source front ∧ plan = .text (front ++ suffix) ∧
    ∀ ss', Spelled ss' suffix ↔ ss' = ss

/-- A plan over a base query that is given as text has one reading. -/
lemma oneReading_plan (source : String) (ss : List Step) :
    OneReading source ((Base.text source).plan ss) (ss.map (Step.mapNames sanitize)) :=
  ⟨_, _, Text.endTrimmed_trimmedEnd source, rfl, fun _ => spelled_join_iff⟩

/-- A plan with one reading tells its steps. -/
lemma OneReading.steps_eq {source : String} {plan : Plan} {ss ss' : List Step}
    (h : OneReading source plan ss) (h' : OneReading source plan ss') : ss = ss' := by
  obtain ⟨front, suffix, hfront, rfl, hread⟩ := h
  obtain ⟨front', suffix', hfront', hplan, hread'⟩ := h'
  obtain rfl := (Text.endTrimmed_iff.1 hfront).trans (Text.endTrimmed_iff.1 hfront').symm
  have hsuffix : suffix = suffix' := by
    have htext := congrArg word (Plan.text.inj hplan)
    rw [Reader.word_append, Reader.word_append] at htext
    exact Reader.word_injective (List.append_cancel_left htext)
  rw [hsuffix] at hread
  exact (hread' ss).1 ((hread ss).2 rfl)

/-- Plans over one base query are equal exactly if their steps are, once sanitized. -/
lemma plan_eq_plan_iff {source : String} {ss ss' : List Step} :
    (Base.text source).plan ss = (Base.text source).plan ss' ↔
      ss.map (Step.mapNames sanitize) = ss'.map (Step.mapNames sanitize) := by
  constructor
  · intro h
    exact (oneReading_plan source ss).steps_eq (h ▸ oneReading_plan source ss')
  · intro h
    have hjoin : String.join (ss.map Step.text) = String.join (ss'.map Step.text) := by
      refine Reader.word_injective ?_
      rw [Reader.word_join, Reader.word_join, h]
    rw [Base.plan, Base.plan, hjoin]

/-- The steps of a row plan with their names and values changed. -/
lemma Rewriter.map_rowSteps (f : String → String) (k : Constraint) (previous : Option String) :
    (rowSteps (some k) previous).map (Step.mapNames f)
      = pageSteps (f k.column) (previous.map f) k.rowLimit := by
  simp only [rowSteps, pageSteps]
  cases previous <;> cases k.rowLimit <;> rfl

/-- The steps that take the greatest value with their names changed. -/
lemma Rewriter.map_maxSteps (f : String → String) (k : Constraint) :
    (maxSteps k).map (Step.mapNames f) = greatestSteps (f maxField) (f k.column) :=
  rfl

/-- The steps of a page tell its column, the value it lies above, and its limit. -/
lemma pageSteps_inj {column column' : String} {previous previous' : Option String}
    {limit limit' : Option UInt64} :
    pageSteps column previous limit = pageSteps column' previous' limit' ↔
      column = column' ∧ previous = previous' ∧ limit = limit' := by
  constructor
  · intro h
    cases previous <;> cases previous' <;> cases limit <;> cases limit' <;>
      simp_all [pageSteps]
  · rintro ⟨rfl, rfl, rfl⟩
    rfl

/-- The steps of a page project to no column. -/
lemma pageSteps_ne_append_greatestSteps {column column' field column'' : String}
    {previous previous' : Option String} {limit limit' : Option UInt64} :
    pageSteps column previous limit
      ≠ pageSteps column' previous' limit' ++ greatestSteps field column'' := by
  intro h
  have hmem : Step.selectAs field column'' ∈ pageSteps column previous limit := by
    rw [h]
    simp [greatestSteps]
  cases previous <;> cases limit <;> simp [pageSteps] at hmem

/-- **The plans of a job say what the job says, and nothing else.**  Over a base query that is given
as text, the text after it has one reading, whatever the column and the previous value are: the
steps of the plan, with sanitized names and values and the exact limit.  So plans with different
sanitized inputs differ. -/
theorem text_plans_have_one_reading (source : String) (k : Constraint) (current : List Step)
    (previous : Option String) :
    let r : Rewriter := ⟨.text source, some k, current⟩
    let page := pageSteps (sanitize k.column) (previous.map sanitize) k.rowLimit
    let greatest := greatestSteps "constraint" (sanitize k.column)
    OneReading source (r.rowPlan previous).1 page ∧
      (∃ plan, (r.rowPlan previous).2.maxPlan = some plan ∧
        OneReading source plan (page ++ greatest)) ∧
      (∃ plan, r.maxPlan = some plan ∧
        OneReading source plan (current.map (Step.mapNames sanitize) ++ greatest)) ∧
      ∀ (k' : Constraint) (current' : List Step) (previous' : Option String),
        let r' : Rewriter := ⟨.text source, some k', current'⟩
        let same := sanitize k.column = sanitize k'.column ∧
          previous.map sanitize = previous'.map sanitize ∧ k.rowLimit = k'.rowLimit
        ((r.rowPlan previous).1 = (r'.rowPlan previous').1 ↔ same) ∧
          ((r.rowPlan previous).2.maxPlan = (r'.rowPlan previous').2.maxPlan ↔ same) ∧
          (r'.rowPlan previous').2.maxPlan ≠ some (r.rowPlan previous).1 := by
  intro r page greatest
  have hpage : (Rewriter.rowSteps (some k) previous).map (Step.mapNames sanitize) = page :=
    Rewriter.map_rowSteps sanitize k previous
  have hgreatest : (Rewriter.maxSteps k).map (Step.mapNames sanitize) = greatest :=
    Rewriter.map_maxSteps sanitize k
  have hmax : ∀ ss : List Step, OneReading source
      ((Base.text source).plan (ss ++ Rewriter.maxSteps k))
      (ss.map (Step.mapNames sanitize) ++ greatest) := by
    intro ss
    rw [← hgreatest, ← List.map_append]
    exact oneReading_plan source _
  refine ⟨hpage ▸ oneReading_plan source _, ⟨_, rfl, hpage ▸ hmax _⟩, ⟨_, rfl, hmax current⟩, ?_⟩
  intro k' current' previous' r' same
  refine ⟨?_, ?_, ?_⟩
  · change (Base.text source).plan (Rewriter.rowSteps (some k) previous)
      = (Base.text source).plan (Rewriter.rowSteps (some k') previous') ↔ same
    rw [plan_eq_plan_iff, Rewriter.map_rowSteps, Rewriter.map_rowSteps, pageSteps_inj]
  · change some ((Base.text source).plan
        (Rewriter.rowSteps (some k) previous ++ Rewriter.maxSteps k))
      = some ((Base.text source).plan
        (Rewriter.rowSteps (some k') previous' ++ Rewriter.maxSteps k')) ↔ same
    rw [Option.some_inj, plan_eq_plan_iff, List.map_append, List.map_append, Rewriter.map_rowSteps,
      Rewriter.map_rowSteps, Rewriter.map_maxSteps, Rewriter.map_maxSteps]
    constructor
    · intro h
      exact pageSteps_inj.1 (List.append_inj' h rfl).1
    · rintro ⟨hcolumn, hprevious, hlimit⟩
      rw [hcolumn, hprevious, hlimit]
  · change some ((Base.text source).plan
      (Rewriter.rowSteps (some k') previous' ++ Rewriter.maxSteps k'))
      ≠ some ((Base.text source).plan (Rewriter.rowSteps (some k) previous))
    rw [Ne, Option.some_inj, plan_eq_plan_iff, List.map_append, Rewriter.map_rowSteps,
      Rewriter.map_rowSteps, Rewriter.map_maxSteps]
    exact pageSteps_ne_append_greatestSteps.symm

end Tidemark.Query
