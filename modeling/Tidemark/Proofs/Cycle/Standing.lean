import Tidemark.Proofs.Cycle.Finding
import Tidemark.Proofs.Cycle.Protocol
import Tidemark.Proofs.Engine.GreatestValue
import Tidemark.Proofs.Query.Grammar

/-!
# Where a job stands

Between two polls a job is known by its description and by the watermark that it finds, which
sanitizing leaves alone (`Standing`).  Its next row plan is read as the steps of the page above that
watermark (`Standing.reads_rowPlan`), and the max-value plan after it as these steps and those that
take the greatest value of the page (`Standing.reads_maxPlan`).  A poll that hands on nothing leaves
the job where it stands (`Exit.standing`), and a mark that is recorded becomes its watermark
(`MaxCall.standing_recorded`).
-/

namespace Tidemark.Cycle

open Engine (Row pageSteps greatestSteps)

/-! ### The plans of a page -/

/-- The name of the greatest value stands in a text as it is. -/
lemma name_maxField (base : Query.Base) :
    base.name Query.Rewriter.maxField = Query.Rewriter.maxField := by
  cases base with
  | text source =>
    change Query.sanitize "constraint" = "constraint"
    decide
  | tree root shape => rfl

/-- A text that sanitizing leaves alone stands in every plan as it is. -/
lemma name_eq_of_sanitize (base : Query.Base) {v : String} (hv : Query.sanitize v = v) :
    base.name v = v := by
  cases base with
  | text source => exact hv
  | tree root shape => rfl

/-- The steps of a row plan above a clean value are the steps of a page. -/
lemma map_rowSteps (base : Query.Base) (k : Query.Constraint) {v : Option String}
    (hv : ∀ w ∈ v, Query.sanitize w = w) :
    (Query.Rewriter.rowSteps (some k) v).map (Query.Step.mapNames base.name)
      = pageSteps (base.name k.column) v k.rowLimit := by
  have hvalue : v.map base.name = v := by
    cases v with
    | none => rfl
    | some w => rw [Option.map_some, name_eq_of_sanitize base (hv w rfl)]
  rw [Query.Rewriter.map_rowSteps, hvalue]

/-- The row plan is read as the steps of a page. -/
lemma reads_pagePlan (base : Query.Base) (k : Query.Constraint) {v : Option String}
    (hv : ∀ w ∈ v, Query.sanitize w = w) :
    base.Reads (pagePlan base k v) (pageSteps (base.name k.column) v k.rowLimit) := by
  rw [← map_rowSteps base k hv]
  exact base.reads_plan _

/-- The max-value plan is read as the steps of a page and of its greatest value. -/
lemma reads_greatestPlan (base : Query.Base) (k : Query.Constraint) {v : Option String}
    (hv : ∀ w ∈ v, Query.sanitize w = w) :
    base.Reads (greatestPlan base k v) (pageSteps (base.name k.column) v k.rowLimit
      ++ greatestSteps Query.Rewriter.maxField (base.name k.column)) := by
  have hmax : (Query.Rewriter.maxSteps k).map (Query.Step.mapNames base.name)
      = greatestSteps Query.Rewriter.maxField (base.name k.column) := by
    rw [Query.Rewriter.map_maxSteps, name_maxField]
  rw [← map_rowSteps base k hv, ← hmax, ← List.map_append, greatestPlan, pagePlan,
    ← Query.Base.plan_append]
  exact base.reads_plan _

/-- The greatest value is taken from the answer, sanitized. -/
lemma maxValue_cell {r : Row} {v : String} (hv : r.text? column = some v) :
    Engine.maxValue [⟨[(Query.Rewriter.maxField, r.cell column)]⟩] = .ok (Query.sanitize v) := by
  simp only [Engine.maxValue, Engine.Row.get?, Members.find?, if_true,
    Engine.Row.scalarText_cell hv]

/-! ### Standing -/

section Standing

variable {σ : Type} {env : Surroundings (StateM σ)} {d : Description} {document : σ → Option String}
  {watermark : Option String} {c : Cycle} {s : σ} {k : Query.Constraint} {column : String}

/-- A job of a description finds a watermark, which is clean. -/
structure Standing (d : Description) (document : σ → Option String) (watermark : Option String)
    (c : Cycle) (s : σ) : Prop where
  description : c.description = d
  finds : Finds document c s watermark
  clean : ∀ v ∈ watermark, Query.sanitize v = v

namespace Standing

/-- A job that was just built finds no watermark. -/
lemma start (hdocument : document s = none) : Standing d document none d.start s :=
  ⟨rfl, finds_start hdocument, by simp⟩

lemma location_eq (h : Standing d document watermark c s) : c.store.location = d.location :=
  congrArg Description.location h.description

lemma base_eq (h : Standing d document watermark c s) : c.rewriter.base = d.base :=
  congrArg Description.base h.description

lemma constraint_eq (h : Standing d document watermark c s) (hk : d.constraint = some k) :
    c.rewriter.constraint = some k :=
  (congrArg Description.constraint h.description).trans hk

lemma isConstrained (h : Standing d document watermark c s) (hk : d.constraint = some k) :
    c.rewriter.isConstrained = true :=
  isConstrained_of_constraint (h.constraint_eq hk)

/-- A job that is built anew finds its watermark again, if this is stored. -/
lemma polling (h : Standing d document watermark c s) {anew : Bool}
    (hanew : d.location = none → anew = false) :
    Standing d document watermark (c.polling anew) s :=
  ⟨(description_polling anew c).trans h.description,
    h.finds.polling fun hnone => hanew (h.location_eq.symm.trans hnone), h.clean⟩

/-- A cycle that has retrieved a value has retrieved the watermark. -/
lemma previous_eq (h : Standing d document watermark c s)
    (harchived : Archived env d.location document) (hk : d.constraint = some k)
    (q : RowCall env c s) : q.previous = watermark :=
  q.previous_eq_of_finds harchived h.location_eq (h.isConstrained hk) h.finds

/-- The row plan of a cycle asks for the page above the watermark. -/
lemma reads_rowPlan (h : Standing d document watermark c s)
    (harchived : Archived env d.location document) (hk : d.constraint = some k)
    (hcolumn : d.base.name k.column = column) (q : RowCall env c s) :
    d.base.Reads (q.job.rowPlan q.previous) (pageSteps column watermark k.rowLimit) := by
  rw [q.rowPlan_eq (h.constraint_eq hk), h.base_eq, h.previous_eq harchived hk q, ← hcolumn]
  exact reads_pagePlan d.base k h.clean

/-- The max-value plan of a cycle asks for the greatest value of that page. -/
lemma reads_maxPlan (h : Standing d document watermark c s)
    (harchived : Archived env d.location document) (hk : d.constraint = some k)
    (hcolumn : d.base.name k.column = column) (q : MaxCall env c s) :
    d.base.Reads q.plan (pageSteps column watermark k.rowLimit
      ++ greatestSteps Query.Rewriter.maxField column) := by
  rw [q.plan_eq (h.constraint_eq hk), h.base_eq, h.previous_eq harchived hk q.toRowCall, ← hcolumn]
  exact reads_greatestPlan d.base k h.clean

end Standing

/-- A poll that hands on nothing leaves its job where it stands. -/
lemma Exit.standing (harchived : Archived env d.location document)
    (hstanding : Standing d document watermark c s) {r : Traced.Run σ Outcome} (h : Exit env c s r)
    (hnot : ¬ ∃ rows, Delivers c rows r) : Standing d document watermark r.value.2 r.world :=
  ⟨h.description_eq.trans hstanding.description,
    h.finds_of_not_delivers harchived hnot hstanding.finds, hstanding.clean⟩

/-- A mark that is recorded becomes the watermark of its job. -/
lemma MaxCall.standing_recorded (harchived : Archived env d.location document)
    (hstanding : Standing d document watermark c s) (q : MaxCall env c s)
    {a : Engine.QueryResult} {value : String} (hvalue : Engine.maxValue a.rows = .ok value)
    {store : Watermark.Store} {t : σ} {xs : List Exchange}
    (hrecord : q.recording value = ⟨(.ok (), store), t, xs⟩) :
    Standing d document (some value) ((q.marked store).enter .idle) t where
  description := by
    rw [description_enter, q.description_marked hrecord, hstanding.description]
  finds := q.finds_recorded harchived hstanding.location_eq hrecord
  clean := by
    rintro v ⟨rfl⟩
    exact Engine.sanitize_maxValue hvalue

end Standing

end Tidemark.Cycle
