import Mathlib.Tactic.Common
import Tidemark.Proofs.Result
import Tidemark.Proofs.Time.Clock
import Tidemark.Proofs.Watermark.DocumentText

/-!
# Watermarks and texts

A watermark that has a mark is encoded as the text of its document, in one of four forms: the
members in the order of declaration or in key order, with line breaks or without.  Decoding such a
text gives the watermark back as soon as its time exists, and the times that occur do: a document
is read only with a time that exists, and a clock within the calendar shows no other
(`Observable.valid`).

A text may also be written by someone else, with its members in another order, with members that
are no field, with a count that carries blanks, a sign or zeros, or with a time of another offset.
Whatever it looks like, its watermark has the text that encodes it, and encoding once is enough:
that text is left as it is by decoding and encoding it again.
-/

namespace Tidemark.Watermark

/-! ### Encoding -/

/-- The order of the members of a document. -/
inductive MemberOrder where
  | declared
  | byKey
  deriving DecidableEq, Repr

/-- Whether a text is broken into lines. -/
inductive Layout where
  | compact
  | pretty
  deriving DecidableEq, Repr

/-- The form of the text of a document. -/
structure Form where
  order : MemberOrder
  layout : Layout
  deriving DecidableEq, Repr

/-- A document as a JSON value with its members in an order. -/
def Document.value (order : MemberOrder) (d : Document) : Json :=
  match order with
  | .declared => .object d.members
  | .byKey => d.toJson

/-- The text of a document. -/
def Document.text (f : Form) (d : Document) : String :=
  match f.layout with
  | .compact => (d.value f.order).compact
  | .pretty => (d.value f.order).pretty

/-- The text of the document of a watermark, if it has one. -/
def encode (f : Form) (w : Watermark) : Option String :=
  w.toDocument.map (Document.text f)

/-- The text that encodes the watermark which a text decodes to. -/
def reencode (f : Form) (text : String) : Option String :=
  (ofText text).toOption.bind (encode f)

/-- Every form of a document is read back. -/
lemma Document.read_text {d : Document} (h : d.lastUpdated.Valid) (f : Form) :
    Document.read (d.text f) = .ok d := by
  obtain ⟨order, layout⟩ := f
  cases order with
  | declared =>
    cases layout with
    | compact => exact read_compact_members h
    | pretty => exact read_pretty_members h
  | byKey =>
    cases layout with
    | compact => exact read_compact h
    | pretty => exact read_pretty h

/-! ### The times of documents -/

/-- The field of the time is the only one that changes the time, and it accepts only a text that
names one that exists. -/
lemma Document.keeps_valid :
    Json.Decoder.Keeps Document.fields fun d => d.lastUpdated.Valid := by
  intro f hf s t depth cs rest hs hread
  simp only [fields, List.mem_cons, List.not_mem_nil, or_false] at hf
  rcases hf with rfl | rfl | rfl | rfl
  · obtain ⟨⟨time, cs₁⟩, htime, hput⟩ := exists_of_map_eq_ok hread
    obtain ⟨text, htext⟩ := Json.Decoder.exists_of_stringWith_eq_ok htime
    obtain ⟨rfl, -⟩ := Prod.mk.inj hput
    cases htimestamp : Time.Timestamp.read text with
    | error fault =>
      rw [htimestamp] at htext
      cases htext
    | ok u =>
      rw [htimestamp] at htext
      obtain rfl : u = time := Except.ok.inj htext
      exact Time.valid_of_read htimestamp
  all_goals
    obtain ⟨_, -, hput⟩ := exists_of_map_eq_ok hread
    obtain ⟨rfl, -⟩ := Prod.mk.inj hput
    exact hs

/-- The time of a document that is read exists. -/
lemma Document.valid_of_read {text : String} {d : Document} (h : Document.read text = .ok d) :
    d.lastUpdated.Valid := by
  obtain ⟨rest, hread⟩ := Json.Decoder.exists_of_readAll_eq_ok h
  have hblank : Document.blank.lastUpdated.Valid := by decide
  exact Document.keeps_valid.record (P := fun d => d.lastUpdated.Valid) hblank hread

/-- The times that a watermark can carry: those of documents, and those of a clock within the
calendar. -/
inductive Observable : Time.Instant → Prop where
  | read {text : String} {d : Document} (h : Document.read text = .ok d) : Observable d.lastUpdated
  | clock {seconds : Int} {nanoseconds : ℕ} (hfirst : Time.firstSecond ≤ seconds)
      (hlast : seconds ≤ Time.lastSecond) (hnano : nanoseconds < 1000000000) :
      Observable (Time.Instant.ofUnix seconds nanoseconds)

/-- Every such time exists. -/
lemma Observable.valid {t : Time.Instant} (h : Observable t) : t.Valid := by
  cases h with
  | read h => exact Document.valid_of_read h
  | clock hfirst hlast hnano => exact Time.valid_ofUnix hfirst hlast hnano

/-! ### Decoding -/

/-- A text decodes to a watermark exactly if it is a document whose row count is a count; the
watermark then has the members of that document. -/
theorem ofText_eq_ok_iff {text : String} {w : Watermark} :
    ofText text = .ok w ↔ ∃ d n, Document.read text = .ok d ∧
      Text.Count.readTrimmed d.rowCount = .ok n ∧
      w = ⟨d.constraintColumn, some ⟨d.lastValue, n, d.lastUpdated⟩⟩ := by
  unfold ofText
  cases hread : Document.read text with
  | error fault => simp
  | ok d =>
    cases hcount : Text.Count.readTrimmed d.rowCount with
    | error fault => simp [Document.toWatermark, hcount, Except.mapError]
    | ok n => simp [Document.toWatermark, hcount, Except.mapError, eq_comm]

/-- A watermark decodes from the text that encodes it. -/
lemma ofText_encode {w : Watermark} {mark : Mark} (hmark : w.mark = some mark)
    (htime : mark.observedAt.Valid) (f : Form) :
    ∃ text, encode f w = some text ∧ ofText text = .ok w := by
  obtain ⟨column, m⟩ := w
  obtain rfl : m = some mark := hmark
  refine ⟨(Store.document column mark).text f, rfl, ?_⟩
  rw [ofText, Document.read_text htime f]
  simp only [toWatermark_document]
  rfl

/-- What is encoded again is the watermark that a text decodes to. -/
lemma reencode_of_ofText {text : String} {w : Watermark} (h : ofText text = .ok w) (f : Form) :
    reencode f text = encode f w := by
  rw [reencode, h]
  rfl

/-- Watermarks and texts fit each other.  Every watermark that has a mark is encoded, in every form,
as a text that decodes to it.  Every text that is a document with a row count decodes to the
watermark of its members, which is encoded as a text that decodes to the same watermark and is
left as it is by decoding and encoding. -/
theorem watermarks_survive_documents :
    (∀ (w : Watermark) (mark : Mark), w.mark = some mark → Observable mark.observedAt →
      ∀ f, ∃ text, encode f w = some text ∧ ofText text = .ok w) ∧
    ∀ (text : String) (d : Document) (n : UInt64), Document.read text = .ok d →
      Text.Count.readTrimmed d.rowCount = .ok n →
      ∃ w : Watermark, w = ⟨d.constraintColumn, some ⟨d.lastValue, n, d.lastUpdated⟩⟩ ∧
        ofText text = .ok w ∧
        ∀ f, ∃ again, reencode f text = some again ∧ encode f w = some again ∧
          ofText again = .ok w ∧ reencode f again = some again := by
  constructor
  · intro w mark hmark htime f
    exact ofText_encode hmark htime.valid f
  · intro text d n hread hcount
    obtain ⟨w, hw⟩ : ∃ w : Watermark,
        w = ⟨d.constraintColumn, some ⟨d.lastValue, n, d.lastUpdated⟩⟩ := ⟨_, rfl⟩
    have htext : ofText text = .ok w := ofText_eq_ok_iff.2 ⟨d, n, hread, hcount, hw⟩
    have hmark : w.mark = some ⟨d.lastValue, n, d.lastUpdated⟩ := by rw [hw]
    refine ⟨w, hw, htext, ?_⟩
    intro f
    obtain ⟨again, hencode, hdecode⟩ := ofText_encode hmark (Observable.read hread).valid f
    refine ⟨again, ?_, hencode, hdecode, ?_⟩
    · rw [reencode_of_ofText htext, hencode]
    · rw [reencode_of_ofText hdecode, hencode]

/-- A watermark whose texts hold quotation marks, a backslash, control characters and letters
beyond ASCII, with the greatest count. -/
def escaped : Watermark :=
  ⟨"naïve \"key\"", some
    ⟨"C:\\new\n\u0001\tlast", 18446744073709551615, Time.Instant.ofUnix 1717236000 123456789⟩⟩

/-- A document that no store writes: blanks around it, a member that is no field, a signed and
padded count, and a time two hours ahead. -/
def foreign : String :=
  " \x7b\"rowCount\": \"\\t+003 \", \"lastValue\": \"\\u0031\\\"5\", \"by\": [1, \x7b\x7d],\n" ++
    "\"constraintColumn\": \"ID\", \"lastUpdated\": \"2024-06-01T12:00:00.50+02:00\"\x7d\n"

/-- The text of a store for the same watermark. -/
def rewritten : String :=
  "\x7b\"constraintColumn\":\"ID\",\"lastUpdated\":\"2024-06-01T10:00:00.500Z\"," ++
    "\"lastValue\":\"1\\\"5\",\"rowCount\":\"3\"\x7d"

/-- The first watermark is kept by its text, and the document is rewritten once. -/
theorem foreign_document_is_rewritten_once :
    (∃ text, encode ⟨.byKey, .compact⟩ escaped = some text ∧ ofText text = .ok escaped) ∧
      reencode ⟨.byKey, .compact⟩ foreign = some rewritten ∧
      reencode ⟨.byKey, .compact⟩ rewritten = some rewritten := by
  constructor
  · have htime : Observable (Time.Instant.ofUnix 1717236000 123456789) :=
      .clock (by decide) (by decide) (by decide)
    exact watermarks_survive_documents.1 escaped _ rfl htime ⟨.byKey, .compact⟩
  · have hread : Document.read foreign
        = .ok ⟨⟨2024, 6, 1, 10, 0, 0, 500000000⟩, "ID", "1\"5", "\t+003 "⟩ := by decide +kernel
    have hcount : Text.Count.readTrimmed "\t+003 " = .ok 3 := by decide +kernel
    obtain ⟨w, hw, -, hforms⟩ := watermarks_survive_documents.2 foreign _ 3 hread hcount
    obtain ⟨again, hforeign, hencode, -, hagain⟩ := hforms ⟨.byKey, .compact⟩
    have htext : again = rewritten := by
      subst hw
      refine (Option.some.inj hencode).symm.trans ?_
      decide +kernel
    rw [htext] at hforeign hagain
    exact ⟨hforeign, hagain⟩

end Tidemark.Watermark
