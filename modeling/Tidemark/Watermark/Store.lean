import Tidemark.Storage.Backend
import Tidemark.Watermark.Basic

/-!
# Watermark stores

A store keeps the watermark of one job between cycles.  Without a location it keeps the watermark
itself; with one, the document at the location counts, and the store remembers the watermark that
it last read or wrote there.  A missing document means that there is no watermark yet; a document
that is no watermark, or tracks another column, is an error and changes nothing.
-/

namespace Tidemark.Watermark

/-- Why a text is not the stored form of a watermark. -/
inductive DocumentFault where
  | unreadable (fault : Json.Fault)
  | rowCount (fault : RowCountFault)
  deriving DecidableEq, Repr

namespace DocumentFault

/-- The wording of a fault. -/
def message : DocumentFault → String
  | .unreadable fault => fault.message
  | .rowCount fault => fault.message

end DocumentFault

/-- Reads a watermark from the text of a document. -/
def ofText (text : String) : Except DocumentFault Watermark :=
  match Document.read text with
  | .error fault => .error (.unreadable fault)
  | .ok document => document.toWatermark.mapError .rowCount

/-- Why a store does not answer. -/
inductive StoreError where
  /-- The backend cannot be reached or refuses the document. -/
  | access (uri : String) (source : Storage.BackendError)
  /-- There is a document at the location, but it is no watermark. -/
  | corrupt (uri : String) (fault : DocumentFault)
  | columnMismatch (uri stored configured : String)
  deriving DecidableEq, Repr

namespace StoreError

/-- The wording of an error. -/
def message : StoreError → String
  | .access uri _ => "failed to access watermark document " ++ uri
  | .corrupt uri fault => "watermark document " ++ uri ++ " is corrupt: " ++ fault.message
  | .columnMismatch uri stored configured =>
    "watermark document " ++ uri ++ " tracks column '" ++ stored
      ++ "' but the job is configured for '" ++ configured ++ "'"

/-- Whether the stored document itself is wrong, so that trying again does not help. -/
def isCorruption : StoreError → Bool
  | .access _ _ => false
  | .corrupt _ _ => true
  | .columnMismatch _ _ _ => true

end StoreError

/-- The store of one job: the location of its document, if it has one, and the watermark that was
last read or written. -/
structure Store where
  location : Option Storage.Location
  current : Watermark
  deriving DecidableEq, Repr

namespace Store

/-- A store that keeps the watermark itself. -/
def inMemory (column : String) : Store :=
  ⟨none, .empty column⟩

/-- A store whose watermark is the document at a location. -/
def durable (column : String) (location : Storage.Location) : Store :=
  ⟨some location, .empty column⟩

/-- Whether the watermark outlives the store. -/
def isDurable (s : Store) : Bool :=
  s.location.isSome

/-- Judges the text of the document at a URI. -/
def judge (column uri text : String) : Except StoreError Watermark :=
  match ofText text with
  | .error fault => .error (.corrupt uri fault)
  | .ok w =>
    if w.column = column then .ok w else .error (.columnMismatch uri w.column column)

/-- What the store makes of the answer of its backend, and the store afterwards. -/
def load (s : Store) (uri : String) (answer : Except Storage.BackendError (Option String)) :
    Except StoreError (Option String) × Store :=
  match answer with
  | .error source => (.error (.access uri source), s)
  | .ok none => (.ok none, s)
  | .ok (some text) =>
    match judge s.current.column uri text with
    | .error e => (.error e, s)
    | .ok w => (.ok w.value, { s with current := w })

theorem judge_eq_ok_iff {column uri text : String} {w : Watermark} :
    judge column uri text = .ok w ↔ ofText text = .ok w ∧ w.column = column := by
  unfold judge
  cases ofText text with
  | error fault => simp
  | ok v =>
    by_cases h : v.column = column
    · simp only [h, if_true, Except.ok.injEq]
      exact ⟨fun hv => ⟨hv, hv ▸ h⟩, fun hv => hv.1⟩
    · simp only [h, if_false, reduceCtorEq, Except.ok.injEq, false_iff, not_and]
      rintro rfl
      exact h

@[simp] theorem location_load (s : Store) (uri : String)
    (answer : Except Storage.BackendError (Option String)) :
    (s.load uri answer).2.location = s.location := by
  unfold load
  split
  · rfl
  · rfl
  · split <;> rfl

/-- A store keeps to its column whatever it loads. -/
@[simp] theorem column_load (s : Store) (uri : String)
    (answer : Except Storage.BackendError (Option String)) :
    (s.load uri answer).2.current.column = s.current.column := by
  unfold load
  split
  · rfl
  · rfl
  · split
    · rfl
    · next h => exact (judge_eq_ok_iff.1 h).2

variable {m : Type → Type} [Monad m]

/-- The value of the watermark, if there is one. -/
def retrieve (backend : Storage.DocumentBackend m) (s : Store) :
    m (Except StoreError (Option String) × Store) :=
  match s.location with
  | none => return (.ok s.current.value, s)
  | some location => do
    return s.load location.uri (← backend.read location.uri)

/-- The document that stores a mark on a column. -/
def document (column : String) (mark : Mark) : Document :=
  ⟨mark.observedAt, column, mark.value, Text.Count.render mark.rowCount⟩

/-- Records a mark.  The store moves on only once the mark is written; a watermark that has no
document is not written. -/
def record (backend : Storage.DocumentBackend m) (s : Store) (mark : Mark) :
    m (Except StoreError Unit × Store) :=
  let moved := { s with current := s.current.update mark }
  match s.location with
  | none => return (.ok (), moved)
  | some location =>
    match moved.current.toDocument with
    | none => return (.ok (), s)
    | some document => do
      match ← backend.write location document.toJson with
      | .ok () => return (.ok (), moved)
      | .error source => return (.error (.access location.uri source), s)

/-- A watermark that was just moved has a document. -/
@[simp] theorem toDocument_update (w : Watermark) (mark : Mark) :
    (w.update mark).toDocument = some (document w.column mark) :=
  rfl

end Store

end Tidemark.Watermark
