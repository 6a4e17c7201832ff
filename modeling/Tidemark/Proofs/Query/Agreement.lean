import Tidemark.Proofs.Query.Extension
import Tidemark.Proofs.Query.Grammar

/-!
# One list of steps behind two kinds of plans

A job is asked for plans again and again: a row plan after some previous value, or a max-value plan
(`Request`).  What it answers depends on the row plan it was asked for last, and on nothing else
(`after_eq`), so the steps of an answer can be told from the constraint and the requests alone
(`toldSteps`).  A rewriter over a text and a rewriter over a tree therefore answer every history of
requests alike: each gives its own base query, followed by the images of one list of steps
(`rewriters_agree`).  In a text the base query loses its blank end and each step is a call with
sanitized names and values (`TextShows`); in a tree everything but the array `$optic.args` stays
where it is, the steps stand at the end of that array, and names and values are verbatim
(`TreeShows`).
-/

namespace Tidemark

/-- The member that is found under a key is the first one with that key, and it is the one that is
changed. -/
lemma Members.exists_of_find?_eq_some {α : Type} {k : String} {v : α} {ms : List (String × α)}
    (h : Members.find? k ms = some v) :
    ∃ front rest, ms = front ++ (k, v) :: rest ∧ (∀ m ∈ front, m.1 ≠ k) ∧
      ∀ f, Members.modify k f ms = front ++ (k, f v) :: rest := by
  induction ms with
  | nil => cases h
  | cons m ms ih =>
    obtain ⟨l, w⟩ := m
    by_cases hkey : k = l
    · subst hkey
      rw [Members.find?, if_pos rfl] at h
      obtain rfl := Option.some.inj h
      exact ⟨[], ms, rfl, by simp, fun f => by simp [Members.modify]⟩
    · rw [Members.find?, if_neg hkey] at h
      obtain ⟨front, rest, rfl, hfront, hmodify⟩ := ih h
      refine ⟨(l, w) :: front, rest, rfl, ?_, ?_⟩
      · intro m hm
        rcases List.mem_cons.1 hm with rfl | hm
        · exact fun heq => hkey heq.symm
        · exact hfront m hm
      · intro f
        rw [Members.modify, if_neg hkey, hmodify f, List.cons_append]

namespace Query

open Engine (pageSteps greatestSteps)

/-! ### Histories of requests -/

/-- What a job asks its rewriter for. -/
inductive Request where
  | rowPlan (previous : Option String)
  | maxPlan
  deriving DecidableEq, Repr

/-- The previous value that a row plan is asked for with. -/
def Request.previous? : Request → Option (Option String)
  | .rowPlan previous => some previous
  | .maxPlan => none

/-- The previous value of the row plan that was asked for last. -/
def lastPrevious (history : List Request) : Option (Option String) :=
  (history.filterMap Request.previous?).getLast?

lemma lastPrevious_append_rowPlan (history : List Request) (previous : Option String) :
    lastPrevious (history ++ [.rowPlan previous]) = some previous := by
  simp [lastPrevious, Request.previous?]

lemma lastPrevious_append_maxPlan (history : List Request) :
    lastPrevious (history ++ [.maxPlan]) = lastPrevious history := by
  simp [lastPrevious, Request.previous?]

/-- The steps of the last row plan, as a constraint on a column with a limit tells them.  Before the
first row plan there are none, and a limit that is not positive stands for none. -/
def toldCurrent (column : String) (limit : Option UInt64) (history : List Request) : List Step :=
  match lastPrevious history with
  | none => []
  | some previous => pageSteps column previous (limit.filter (0 < ·))

/-- The steps that an answer to a request shows after a history. -/
def toldSteps (column : String) (limit : Option UInt64) (history : List Request) :
    Request → List Step
  | .rowPlan previous => pageSteps column previous (limit.filter (0 < ·))
  | .maxPlan => toldCurrent column limit history ++ greatestSteps "constraint" column

namespace Rewriter

/-- The answer to a request. -/
def answer (r : Rewriter) : Request → Option Plan
  | .rowPlan previous => some (r.rowPlan previous).1
  | .maxPlan => r.maxPlan

/-- The rewriter after a request. -/
def next (r : Rewriter) : Request → Rewriter
  | .rowPlan previous => (r.rowPlan previous).2
  | .maxPlan => r

/-- The rewriter after a history of requests. -/
def after (r : Rewriter) (history : List Request) : Rewriter :=
  history.foldl next r

lemma after_append (r : Rewriter) (history : List Request) (request : Request) :
    r.after (history ++ [request]) = (r.after history).next request := by
  simp [after]

/-- A history changes neither the base query nor the constraint, and the row plan that was asked for
last is the current one. -/
lemma after_eq (r : Rewriter) (history : List Request) :
    r.after history = { r with
      current := (lastPrevious history).elim r.current (rowSteps r.constraint) } := by
  induction history using List.reverseRecOn with
  | nil => rfl
  | append_singleton history request ih =>
    rw [after_append, ih]
    cases request with
    | rowPlan previous =>
      rw [lastPrevious_append_rowPlan]
      rfl
    | maxPlan =>
      rw [lastPrevious_append_maxPlan]
      rfl

end Rewriter

/-- A constraint keeps its column, and its limit if that is positive. -/
lemma Constraint.of_ofColumn?_eq_some {column : String} {limit : Option UInt64} {k : Constraint}
    (hk : Constraint.ofColumn? column limit = some k) :
    k.column = column ∧ k.rowLimit = limit.filter (0 < ·) := by
  rw [Constraint.ofColumn?] at hk
  split at hk
  · obtain rfl := Option.some.inj hk
    refine ⟨rfl, ?_⟩
    have hpos : (fun n : UInt64 => decide (n ≠ 0)) = fun n => decide (0 < n) := by
      funext n
      have hiff : n ≠ 0 ↔ 0 < n := UInt64.pos_iff_ne_zero.symm
      exact decide_eq_decide.2 hiff
    exact congrArg (fun p => Option.filter p limit) hpos
  · cases hk

section Answers

variable {column : String} {limit : Option UInt64} {k : Constraint}

/-- The steps of a row plan are told by the constraint. -/
lemma Rewriter.rowSteps_eq (hk : Constraint.ofColumn? column limit = some k)
    (previous : Option String) :
    Rewriter.rowSteps (some k) previous = pageSteps column previous (limit.filter (0 < ·)) := by
  obtain ⟨hcolumn, hlimit⟩ := Constraint.of_ofColumn?_eq_some hk
  rw [← hcolumn, ← hlimit]
  rfl

/-- The current plan is told by the constraint and the history. -/
lemma Rewriter.current_after (hk : Constraint.ofColumn? column limit = some k) (base : Base)
    (history : List Request) :
    ((Rewriter.new base (some k)).after history).current = toldCurrent column limit history := by
  rw [Rewriter.after_eq, toldCurrent]
  cases lastPrevious history with
  | none => rfl
  | some previous => exact Rewriter.rowSteps_eq hk previous

/-- Every answer is the base query with the steps that are told. -/
lemma Rewriter.answer_after (hk : Constraint.ofColumn? column limit = some k) (base : Base)
    (history : List Request) (request : Request) :
    ((Rewriter.new base (some k)).after history).answer request
      = some (base.plan (toldSteps column limit history request)) := by
  have hcurrent := Rewriter.current_after hk base history
  rw [Rewriter.after_eq] at hcurrent ⊢
  cases request with
  | rowPlan previous =>
    rw [toldSteps, ← Rewriter.rowSteps_eq hk]
    rfl
  | maxPlan =>
    obtain ⟨hcolumn, -⟩ := Constraint.of_ofColumn?_eq_some hk
    rw [toldSteps, ← hcurrent, ← hcolumn]
    rfl

/-- The current query text is the text of the current plan. -/
lemma Rewriter.currentText_after (hk : Constraint.ofColumn? column limit = some k) (base : Base)
    (history : List Request) :
    ((Rewriter.new base (some k)).after history).currentText
      = (base.plan (toldCurrent column limit history)).queryText := by
  rw [← Rewriter.current_after hk base history, Rewriter.after_eq]
  rfl

end Answers

/-! ### Images of steps -/

/-- A query text without its blank end, followed by calls with sanitized names and values. -/
def TextShows (source : String) (ss : List Step) (plan : Plan) : Prop :=
  ∃ front, Text.EndTrimmed source front ∧
    plan = .text (front ++ String.join (ss.map Step.text)) ∧
    ∀ s ∈ ss, Spells (s.mapNames sanitize) s.text

/-- An object in a plan tree that stands for a column. -/
inductive DepictsColumn (name : String) : Json → Prop
  | intro : DepictsColumn name
      (.object [("args", .array [.string name]), ("fn", .string "col"), ("ns", .string "op")])

/-- An object in the array of steps, with names and values as they are. -/
inductive Depicts : Step → Json → Prop
  | whereGreater (name value : String) {column : Json} (hcolumn : DepictsColumn name column) :
    Depicts (.whereGreater name value)
      (.object [
        ("args", .array [.object [
          ("args", .array [column, .string value]), ("fn", .string "gt"), ("ns", .string "op")]]),
        ("fn", .string "where"), ("ns", .string "op")])
  | ascending (name : String) {column : Json} (hcolumn : DepictsColumn name column) :
    Depicts (.orderBy .ascending name)
      (.object [
        ("args", .array [.object [
          ("args", .array [column]), ("fn", .string "asc"), ("ns", .string "op")]]),
        ("fn", .string "order-by"), ("ns", .string "op")])
  | descending (name : String) {column : Json} (hcolumn : DepictsColumn name column) :
    Depicts (.orderBy .descending name)
      (.object [
        ("args", .array [.object [
          ("args", .array [column]), ("fn", .string "desc"), ("ns", .string "op")]]),
        ("fn", .string "order-by"), ("ns", .string "op")])
  | limit (n : UInt64) :
    Depicts (.limit n)
      (.object [("args", .array [.number (.integer n.toNat)]), ("fn", .string "limit"),
        ("ns", .string "op")])
  | selectAs (field name : String) {column : Json} (hcolumn : DepictsColumn name column) :
    Depicts (.selectAs field name)
      (.object [
        ("args", .array [.array [.object [
          ("args", .array [.string field, column]), ("fn", .string "as"),
          ("ns", .string "op")]]]),
        ("fn", .string "select"), ("ns", .string "op")])

/-- A tree with objects for steps at the end of its array of steps, and everything else as it
was. -/
inductive TreeShows (ss : List Step) : Json → Plan → Prop
  | intro {front rest front' rest' : List (String × Json)} {steps : List Json}
    (hfront : ∀ m ∈ front, m.1 ≠ "$optic") (hfront' : ∀ m ∈ front', m.1 ≠ "args")
    (hdepicts : ∀ s ∈ ss, Depicts s s.tree) :
    TreeShows ss
      (.object (front ++ ("$optic", .object
        (front' ++ ("args", .array steps) :: rest')) :: rest))
      (.tree (.object (front ++ ("$optic", .object
        (front' ++ ("args", .array (steps ++ ss.map Step.tree)) :: rest')) :: rest)))

lemma depicts_tree (s : Step) : Depicts s s.tree := by
  cases s with
  | whereGreater name value => exact .whereGreater name value .intro
  | orderBy direction name =>
    cases direction with
    | ascending => exact .ascending name .intro
    | descending => exact .descending name .intro
  | limit n => exact .limit n
  | selectAs field name => exact .selectAs field name .intro

/-- A plan over a text shows its steps. -/
lemma textShows_plan (source : String) (ss : List Step) :
    TextShows source ss ((Base.text source).plan ss) :=
  ⟨_, Text.endTrimmed_trimmedEnd source, rfl, fun s _ => spells_text s⟩

/-- A plan over a tree shows its steps. -/
lemma treeShows_plan (root : Json) (shape : Shape.check root = .ok ()) (ss : List Step) :
    TreeShows ss root ((Base.tree root shape).plan ss) := by
  obtain ⟨members, optic, steps, rfl, hoptic, hsteps⟩ := Shape.exists_of_check shape
  obtain ⟨front, rest, rfl, hfront, hmodify⟩ := Members.exists_of_find?_eq_some hoptic
  obtain ⟨front', rest', rfl, hfront', hmodify'⟩ := Members.exists_of_find?_eq_some hsteps
  rw [Base.plan, Shape.append, Shape.modifyMember, hmodify, Shape.modifyMember, hmodify']
  exact .intro hfront hfront' fun s _ => depicts_tree s

/-- A plan that is a base query followed by the images of steps. -/
def Base.Shows (ss : List Step) (plan : Plan) : Base → Prop
  | .text source => TextShows source ss plan
  | .tree root _ => TreeShows ss root plan

/-- A base query with steps shows them. -/
lemma Base.shows_plan (base : Base) (ss : List Step) : base.Shows ss (base.plan ss) := by
  cases base with
  | text source => exact textShows_plan source ss
  | tree root shape => exact treeShows_plan root shape ss

/-- A tree that is taken as base query is kept as it is. -/
lemma Base.exists_of_ofTree {root : Json} {base : Base} (h : Base.ofTree root = .ok base) :
    ∃ shape, base = .tree root shape := by
  unfold Base.ofTree at h
  split at h
  · next shape => exact ⟨shape, (Except.ok.inj h).symm⟩
  · cases h

/-! ### Agreement -/

/-- **Two kinds of plans, one list of steps.**  A rewriter over a text and a rewriter over a tree
are asked for the same plans in the same order.  Then each answer is the own base query, followed by
the images of the steps that the constraint and the history tell; a row plan does not depend on the
history, a max-value plan changes nothing, and the current query text is that of the row plan asked
for last. -/
theorem rewriters_agree {column : String} {limit : Option UInt64} {k : Constraint}
    (hk : Constraint.ofColumn? column limit = some k) {root : Json} {tree : Base}
    (htree : Base.ofTree root = .ok tree) (source : String) (history : List Request) :
    let overText := Rewriter.new (.text source) (some k)
    let overTree := Rewriter.new tree (some k)
    (∀ request, ∃ plan plan',
      (overText.after history).answer request = some plan ∧
      (overTree.after history).answer request = some plan' ∧
      TextShows source (toldSteps column limit history request) plan ∧
      TreeShows (toldSteps column limit history request) root plan') ∧
    (∃ text root',
      (overText.after history).currentText = text ∧
      (overTree.after history).currentText = root'.compact ∧
      TextShows source (toldCurrent column limit history) (.text text) ∧
      TreeShows (toldCurrent column limit history) root (.tree root')) ∧
    (∀ earlier previous,
      (overText.after history).answer (.rowPlan previous)
        = (overText.after earlier).answer (.rowPlan previous) ∧
      (overTree.after history).answer (.rowPlan previous)
        = (overTree.after earlier).answer (.rowPlan previous)) ∧
    overText.after (history ++ [.maxPlan]) = overText.after history ∧
    overTree.after (history ++ [.maxPlan]) = overTree.after history := by
  obtain ⟨shape, rfl⟩ := Base.exists_of_ofTree htree
  intro overText overTree
  refine ⟨?_, ?_, ?_, ?_, ?_⟩
  · intro request
    exact ⟨_, _, Rewriter.answer_after hk (.text source) history request,
      Rewriter.answer_after hk (.tree root shape) history request,
      textShows_plan source _, treeShows_plan root shape _⟩
  · exact ⟨_, _, Rewriter.currentText_after hk (.text source) history,
      Rewriter.currentText_after hk (.tree root shape) history,
      textShows_plan source _, treeShows_plan root shape _⟩
  · intro earlier previous
    simp only [overText, overTree, Rewriter.answer_after hk]
    exact ⟨rfl, rfl⟩
  · rw [Rewriter.after_append]
    rfl
  · rw [Rewriter.after_append]
    rfl

/-- A pipeline of one step, as a tree. -/
def oneStep : Json :=
  .object [("$optic", .object [("args", .array [.object []]), ("fn", .string "operators")])]

/-- After several requests, a max-value plan shows the steps of the last row plan and its own, in a
text and in a tree. -/
theorem rewriters_agree_on_quoted_value :
    ∃ (k : Constraint) (tree : Base) (plan plan' : Plan),
      Constraint.ofColumn? "ID" (some 3) = some k ∧ Base.ofTree oneStep = .ok tree ∧
      let history := [.maxPlan, .rowPlan (some "1"), .maxPlan, .rowPlan (some "it's")]
      let steps := [Step.whereGreater "ID" "it's", .orderBy .ascending "ID", .limit 3,
        .orderBy .descending "ID", .limit 1, .selectAs "constraint" "ID"]
      ((Rewriter.new (.text "op.view() \n") (some k)).after history).answer .maxPlan = some plan ∧
      ((Rewriter.new tree (some k)).after history).answer .maxPlan = some plan' ∧
      TextShows "op.view() \n" steps plan ∧ TreeShows steps oneStep plan' ∧
      plan = .text ("op.view().where(op.gt(op.col('ID'), 'its')).orderBy(op.asc(op.col('ID')))"
        ++ ".limit(3).orderBy(op.desc(op.col('ID'))).limit(1)"
        ++ ".select(op.as('constraint', op.col('ID')))") := by
  have hk : Constraint.ofColumn? "ID" (some 3) = some ⟨"ID", some 3, by decide, by decide⟩ := by
    decide
  have htree : Base.ofTree oneStep = .ok (.tree oneStep (by decide)) := by
    rfl
  obtain ⟨hanswers, -⟩ := rewriters_agree hk htree "op.view() \n"
    [.maxPlan, .rowPlan (some "1"), .maxPlan, .rowPlan (some "it's")]
  obtain ⟨plan, plan', hplan, hplan', htext, hshows⟩ := hanswers .maxPlan
  refine ⟨_, _, plan, plan', hk, htree, hplan, hplan', htext, hshows, ?_⟩
  obtain rfl := Option.some.inj hplan
  exact congrArg Plan.text (by decide +kernel)

end Query

end Tidemark
