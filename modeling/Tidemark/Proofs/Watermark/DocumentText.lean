import Mathlib.Tactic.Common
import Tidemark.Proofs.Json.Record
import Tidemark.Proofs.Text.Decimal
import Tidemark.Proofs.Time.Timestamp
import Tidemark.Watermark.Store

/-!
# Watermarks survive the text of their document

A document is written as an object of four strings: by a store in key order, and on its own in the
order of declaration.  `spacedChars` is the text of such an object with blanks before each member,
before each value and before the closing brace; without blanks it is the compact text, and with line
breaks it is the pretty one.  Whatever the blanks are, and in either order, reading the text gives
the document back (`Fills`, `decoder_spacedChars`), so a store that wrote a watermark finds the same
watermark at its location (`ofText_compact`, `ofText_pretty`).
-/

namespace Tidemark.Watermark

open Json Json.Decoder Json.Scan

namespace Document

/-! ### The text of an object of strings with blanks -/

/-- Strings as the members of an object. -/
def stringMembers (ms : List (String × String)) : List (String × Json) :=
  ms.map fun m => (m.1, .string m.2)

/-- The members of a document, as texts, in the order of declaration. -/
def texts (d : Document) : List (String × String) :=
  [("lastUpdated", d.lastUpdated.render), ("constraintColumn", d.constraintColumn),
    ("lastValue", d.lastValue), ("rowCount", d.rowCount)]

/-- The members of a document, as texts, in key order. -/
def sortedTexts (d : Document) : List (String × String) :=
  [("constraintColumn", d.constraintColumn), ("lastUpdated", d.lastUpdated.render),
    ("lastValue", d.lastValue), ("rowCount", d.rowCount)]

/-- A member: its key, a colon, blanks and its value. -/
def memberChars (gap : List Char) (k v : String) : List Char :=
  quoteChars k.toList ++ ':' :: (gap ++ quoteChars v.toList)

/-- Members after the first one, each after a comma and blanks, and the closing brace. -/
def laterChars (gap line close : List Char) : List (String × String) → List Char
  | [] => close ++ ['\x7d']
  | (k, v) :: ms => ',' :: (line ++ (memberChars gap k v ++ laterChars gap line close ms))

/-- The members of an object, each after blanks, with commas between them, and the closing brace. -/
def spacedChars (gap line close : List Char) : List (String × String) → List Char
  | [] => close ++ ['\x7d']
  | (k, v) :: ms => line ++ (memberChars gap k v ++ laterChars gap line close ms)

/-- The members of a document as they are declared. -/
lemma members_eq (d : Document) : d.members = stringMembers d.texts :=
  rfl

/-- The members of a document in key order. -/
lemma toJson_eq (d : Document) : d.toJson = .object (stringMembers d.sortedTexts) := by
  have h₁ : ¬ "constraintColumn" = "lastUpdated" := by decide
  have h₂ : "constraintColumn" < "lastUpdated" := by decide
  have h₃ : ¬ "lastValue" < "constraintColumn" := by decide
  have h₄ : ¬ "lastValue" = "constraintColumn" := by decide
  have h₅ : ¬ "lastValue" < "lastUpdated" := by decide
  have h₆ : ¬ "lastValue" = "lastUpdated" := by decide
  have h₇ : ¬ "rowCount" < "constraintColumn" := by decide
  have h₈ : ¬ "rowCount" = "constraintColumn" := by decide
  have h₉ : ¬ "rowCount" < "lastUpdated" := by decide
  have h₁₀ : ¬ "rowCount" = "lastUpdated" := by decide
  have h₁₁ : ¬ "rowCount" < "lastValue" := by decide
  have h₁₂ : ¬ "rowCount" = "lastValue" := by decide
  simp [toJson, members, stringMembers, sortedTexts, Json.ofMembers, Members.ofPairs,
    Members.insert, *]

lemma compactMembers_strings (k v : String) (ms : List (String × String)) :
    compactMembers (stringMembers ((k, v) :: ms)) ++ ['\x7d']
      = memberChars [] k v ++ laterChars [] [] [] ms := by
  induction ms generalizing k v with
  | nil => simp [stringMembers, compactMembers, compactChars, memberChars, laterChars]
  | cons m ms ih =>
    have htail := ih m.1 m.2
    simp only [stringMembers, List.map_cons] at htail
    simp [stringMembers, compactMembers, compactChars, memberChars, laterChars, htail]

/-- The compact text has no blanks. -/
lemma compactChars_strings (k v : String) (ms : List (String × String)) :
    compactChars (.object (stringMembers ((k, v) :: ms)))
      = '\x7b' :: spacedChars [] [] [] ((k, v) :: ms) := by
  rw [compactChars, List.cons_append, compactMembers_strings]
  rfl

lemma prettyMembers_strings (level : ℕ) (close : List Char) (k v : String)
    (ms : List (String × String)) :
    prettyMembers level (stringMembers ((k, v) :: ms)) ++ close ++ ['\x7d']
      = newLine level ++ (memberChars [' '] k v ++ laterChars [' '] (newLine level) close ms) := by
  induction ms generalizing k v with
  | nil => simp [stringMembers, prettyMembers, prettyChars, memberChars, laterChars]
  | cons m ms ih =>
    have htail := ih m.1 m.2
    simp only [stringMembers, List.map_cons, List.append_assoc] at htail
    simp [stringMembers, prettyMembers, prettyChars, memberChars, laterChars, htail]

/-- The pretty text has a line for each member. -/
lemma prettyChars_strings (k v : String) (ms : List (String × String)) :
    prettyChars 0 (.object (stringMembers ((k, v) :: ms)))
      = '\x7b' :: spacedChars [' '] (newLine 1) (newLine 0) ((k, v) :: ms) := by
  have hmembers := prettyMembers_strings 1 (newLine 0) k v ms
  simp only [stringMembers, List.map_cons] at hmembers
  simp only [stringMembers, List.map_cons, prettyChars, List.cons_append, spacedChars, hmembers]

/-! ### Reading the text back -/

section Reading

variable {gap line close : List Char}

/-- A member starts with a quotation mark. -/
lemma memberChars_append (gap : List Char) (k v : String) (rest : List Char) :
    memberChars gap k v ++ rest
      = '"' :: (k.toList.flatMap escapeChar ++
          '"' :: ':' :: (gap ++ (quoteChars v.toList ++ rest))) := by
  simp [memberChars, quoteChars]

/-- A field that holds a string is read from its quoted text. -/
lemma read_stringField (k v : String) (put : Document → String → Document)
    (hgap : ∀ c ∈ gap, isSpace c = true) (d : Document) (depth : Nat) (rest : List Char) :
    (field k Json.Decoder.string put).read d depth (gap ++ (quoteChars v.toList ++ rest))
      = .ok (put d v, rest) := by
  have hread : Json.Decoder.string depth (gap ++ (quoteChars v.toList ++ rest)) = .ok (v, rest) :=
    stringWith_quoted rfl hgap depth rest
  simp [field, hread, Except.map]

/-- The text of an instant that exists is accepted where a timestamp is wanted. -/
lemma mapError_read_render {t : Time.Instant} (ht : t.Valid) :
    (Time.Timestamp.read t.render).mapError Time.TimestampFault.message = .ok t := by
  rw [Time.read_render ht]
  simp only [Except.mapError]

/-- A field that holds a time is read from the quoted text of an instant that exists. -/
lemma read_timeField (k : String) {t : Time.Instant} (ht : t.Valid)
    (put : Document → Time.Instant → Document) (hgap : ∀ c ∈ gap, isSpace c = true) (d : Document)
    (depth : Nat) (rest : List Char) :
    (field k instantDecoder put).read d depth (gap ++ (quoteChars t.render.toList ++ rest))
      = .ok (put d t, rest) := by
  have hread :
      instantDecoder depth (gap ++ (quoteChars t.render.toList ++ rest)) = .ok (t, rest) := by
    rw [instantDecoder]
    refine stringWith_quoted ?_ hgap depth rest
    exact mapError_read_render ht
  simp [field, hread, Except.map]

/-- The first member of a document is read into its field. -/
lemma recordMembers_first {fields : List (FieldDecoder Document)} {f : FieldDecoder Document}
    {depth fuel : Nat} {seen : List String} {s t : Document} {k v : String} {rest : List Char}
    (hline : ∀ c ∈ line, isSpace c = true) (hfind : fields.find? (·.name = k) = some f)
    (hseen : k ∉ seen)
    (hread : f.read s depth (gap ++ (quoteChars v.toList ++ rest)) = .ok (t, rest)) :
    recordMembers fields depth (fuel + 1) true seen s (line ++ (memberChars gap k v ++ rest))
      = recordMembers fields depth fuel false (k :: seen) t rest := by
  rw [memberChars_append]
  exact recordMembers_field (nextKey_first hline _) (key_quoted k _) hfind hseen (colon_cons _)
    hread

/-- A later member of a document is read into its field. -/
lemma recordMembers_later {fields : List (FieldDecoder Document)} {f : FieldDecoder Document}
    {depth fuel : Nat} {seen : List String} {s t : Document} {k v : String} {rest : List Char}
    (hline : ∀ c ∈ line, isSpace c = true) (hfind : fields.find? (·.name = k) = some f)
    (hseen : k ∉ seen)
    (hread : f.read s depth (gap ++ (quoteChars v.toList ++ rest)) = .ok (t, rest)) :
    recordMembers fields depth (fuel + 1) false seen s
        (',' :: (line ++ (memberChars gap k v ++ rest)))
      = recordMembers fields depth fuel false (k :: seen) t rest := by
  rw [memberChars_append]
  exact recordMembers_field (nextKey_later hline _) (key_quoted k _) hfind hseen (colon_cons _)
    hread

end Reading

/-- Members of an object are read into a document, whatever the blanks between them are. -/
def Fills (ms : List (String × String)) (d : Document) : Prop :=
  ∀ {gap line close : List Char}, (∀ c ∈ gap, isSpace c = true) → (∀ c ∈ line, isSpace c = true) →
    (∀ c ∈ close, isSpace c = true) → ∀ depth fuel,
      recordMembers fields depth (fuel + 5) true [] blank (spacedChars gap line close ms)
        = .ok (d, close ++ ['\x7d'])

/-- The members of a document in key order fill it. -/
lemma fills_sortedTexts {d : Document} (hd : d.lastUpdated.Valid) : Fills d.sortedTexts d := by
  intro gap line close hgap hline hclose depth fuel
  simp only [sortedTexts, spacedChars, laterChars]
  rw [recordMembers_first hline rfl (by simp) (read_stringField _ _ _ hgap _ _ _)]
  rw [recordMembers_later hline rfl (by decide) (read_timeField _ hd _ hgap _ _ _)]
  rw [recordMembers_later hline rfl (by decide) (read_stringField _ _ _ hgap _ _ _)]
  rw [recordMembers_later hline rfl (by decide) (read_stringField _ _ _ hgap _ _ _)]
  exact recordMembers_close (nextKey_close hclose false []) rfl

/-- The members of a document in the order of declaration fill it. -/
lemma fills_texts {d : Document} (hd : d.lastUpdated.Valid) : Fills d.texts d := by
  intro gap line close hgap hline hclose depth fuel
  simp only [texts, spacedChars, laterChars]
  rw [recordMembers_first hline rfl (by simp) (read_timeField _ hd _ hgap _ _ _)]
  rw [recordMembers_later hline rfl (by decide) (read_stringField _ _ _ hgap _ _ _)]
  rw [recordMembers_later hline rfl (by decide) (read_stringField _ _ _ hgap _ _ _)]
  rw [recordMembers_later hline rfl (by decide) (read_stringField _ _ _ hgap _ _ _)]
  exact recordMembers_close (nextKey_close hclose false []) rfl

/-- Each member takes at least one character. -/
lemma length_le_laterChars (gap line close : List Char) (ms : List (String × String)) :
    ms.length + 1 ≤ (laterChars gap line close ms).length := by
  induction ms with
  | nil => simp [laterChars]
  | cons m ms ih =>
    simp only [laterChars, List.length_cons, List.length_append]
    omega

/-- A written document is read back, whatever the blanks. -/
lemma decoder_spacedChars {gap line close : List Char} (hgap : ∀ c ∈ gap, isSpace c = true)
    (hline : ∀ c ∈ line, isSpace c = true) (hclose : ∀ c ∈ close, isSpace c = true)
    {d : Document} {k v : String} {ms : List (String × String)} (hms : ms.length = 3)
    (hfills : Fills ((k, v) :: ms) d) (depth : ℕ) :
    decoder (depth + 1) ('\x7b' :: spacedChars gap line close ((k, v) :: ms)) = .ok (d, []) := by
  have hlen : 4 ≤ (spacedChars gap line close ((k, v) :: ms)).length := by
    have hlater := length_le_laterChars gap line close ms
    simp only [spacedChars, List.length_append]
    omega
  obtain ⟨fuel, hfuel⟩ := Nat.exists_eq_add_of_le' hlen
  have hmembers := hfills hgap hline hclose depth fuel
  rw [show fuel + 5 = (spacedChars gap line close ((k, v) :: ms)).length + 1 by omega] at hmembers
  exact record_object hmembers (closeMembers_append hclose [])

/-- A text is read as a document if its characters are read to the end. -/
lemma read_eq_of_decoder {text : String} {d : Document}
    (h : decoder maxDepth text.toList = .ok (d, [])) : Document.read text = .ok d := by
  rw [Document.read, readAll, h]
  rfl

/-- The compact text of members that fill a document is read as that document. -/
lemma read_compact_of_fills {d : Document} {k v : String} {ms : List (String × String)}
    (hms : ms.length = 3) (hfills : Fills ((k, v) :: ms) d) :
    Document.read (Json.object (stringMembers ((k, v) :: ms))).compact = .ok d := by
  apply read_eq_of_decoder
  rw [Json.compact, String.toList_ofList, compactChars_strings]
  exact decoder_spacedChars (by simp) (by simp) (by simp) hms hfills 126

/-- The pretty text of members that fill a document is read as that document. -/
lemma read_pretty_of_fills {d : Document} {k v : String} {ms : List (String × String)}
    (hms : ms.length = 3) (hfills : Fills ((k, v) :: ms) d) :
    Document.read (Json.object (stringMembers ((k, v) :: ms))).pretty = .ok d := by
  apply read_eq_of_decoder
  rw [Json.pretty, String.toList_ofList, prettyChars_strings]
  have hgap : ∀ c ∈ [' '], isSpace c = true := by
    intro c hc
    rw [List.mem_singleton.1 hc]
    rfl
  exact decoder_spacedChars hgap (fun _ hc => isSpace_of_mem_newLine hc)
    (fun _ hc => isSpace_of_mem_newLine hc) hms hfills 126

/-- The compact text that a store writes is read back. -/
theorem read_compact {d : Document} (hd : d.lastUpdated.Valid) :
    Document.read d.toJson.compact = .ok d := by
  rw [toJson_eq]
  exact read_compact_of_fills rfl (fills_sortedTexts hd)

/-- The pretty text that a store writes is read back. -/
theorem read_pretty {d : Document} (hd : d.lastUpdated.Valid) :
    Document.read d.toJson.pretty = .ok d := by
  rw [toJson_eq]
  exact read_pretty_of_fills rfl (fills_sortedTexts hd)

/-- The compact text of a document on its own is read back. -/
theorem read_compact_members {d : Document} (hd : d.lastUpdated.Valid) :
    Document.read (Json.object d.members).compact = .ok d := by
  rw [members_eq]
  exact read_compact_of_fills rfl (fills_texts hd)

/-- The pretty text of a document on its own is read back. -/
theorem read_pretty_members {d : Document} (hd : d.lastUpdated.Valid) :
    Document.read (Json.object d.members).pretty = .ok d := by
  rw [members_eq]
  exact read_pretty_of_fills rfl (fills_texts hd)

end Document

/-! ### The watermark in a document -/

/-- The document of a mark stores that mark. -/
theorem toWatermark_document (column : String) (mark : Mark) :
    (Store.document column mark).toWatermark = .ok ⟨column, some mark⟩ := by
  simp [Document.toWatermark, Store.document, Text.Count.readTrimmed_render]

/-- A store reads back the watermark whose document a backend keeps as compact text. -/
theorem ofText_compact {mark : Mark} (h : mark.observedAt.Valid) (column : String) :
    ofText (Store.document column mark).toJson.compact = .ok ⟨column, some mark⟩ := by
  have hread : Document.read (Store.document column mark).toJson.compact
      = .ok (Store.document column mark) := Document.read_compact h
  rw [ofText, hread]
  simp only [toWatermark_document]
  rfl

/-- A store reads back the watermark whose document a backend keeps as pretty text. -/
theorem ofText_pretty {mark : Mark} (h : mark.observedAt.Valid) (column : String) :
    ofText (Store.document column mark).toJson.pretty = .ok ⟨column, some mark⟩ := by
  have hread : Document.read (Store.document column mark).toJson.pretty
      = .ok (Store.document column mark) := Document.read_pretty h
  rw [ofText, hread]
  simp only [toWatermark_document]
  rfl

end Tidemark.Watermark
