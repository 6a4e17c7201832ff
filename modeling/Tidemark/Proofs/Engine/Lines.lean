import Tidemark.Engine.Row
import Tidemark.Proofs.Json.CompactText
import Tidemark.Proofs.Text.Bytes

/-!
# Rows on lines

Every row is printed on a line of its own.  No byte of its text is a control character
(`Row.le_of_mem_bytes`), so that cutting the output at the line feeds gives the texts of the rows
again (`splitOn_endLines`).  Wherever the output is cut, the lines that are complete are those of
the first rows (`exists_cut`).  A row is read back from its text by a reader that goes as deep as
the row is nested (`Row.decoder_render`); the reader of rows does not go deeper than 127 containers,
and one more is not read (`Row.decoder_render_nested`).
-/

namespace Tidemark

namespace Engine

open Json (Plain nested compactChars)
open Json.Decoder (maxDepth)

/-! ### Lines -/

section Lines

variable {α : Type} {x : α}

/-- Lines with their ends behind them. -/
def endLines (x : α) (ls : List (List α)) : List α :=
  ls.flatMap (· ++ [x])

lemma endLines_cons (l : List α) (ls : List (List α)) :
    endLines x (l :: ls) = l ++ x :: endLines x ls := by
  rw [endLines, List.flatMap_cons, List.append_assoc, List.singleton_append, endLines]

/-- Cutting lines at their ends gives the lines, and nothing behind the last end. -/
lemma splitOn_endLines [DecidableEq α] {ls : List (List α)} (h : ∀ l ∈ ls, x ∉ l) :
    (endLines x ls).splitOn x = ls ++ [[]] := by
  induction ls with
  | nil => rfl
  | cons l ls ih =>
    obtain ⟨hl, hls⟩ := List.forall_mem_cons.1 h
    rw [endLines_cons, List.splitOn_append_cons_self, ih hls, List.splitOn_eq_singleton hl,
      List.singleton_append, List.cons_append]

/-- Wherever lines are cut, some of them are complete, and what was begun of the next one goes on
behind the cut. -/
lemma exists_cut {ls : List (List α)} (hls : ∀ l ∈ ls, x ∉ l) {front back : List α}
    (h : endLines x ls = front ++ back) :
    ∃ k tail, x ∉ tail ∧ front = endLines x (ls.take k) ++ tail ∧
      tail ++ back = endLines x (ls.drop k) := by
  induction ls generalizing front with
  | nil =>
    obtain ⟨rfl, rfl⟩ := List.append_eq_nil_iff.1 h.symm
    exact ⟨0, [], List.not_mem_nil, rfl, rfl⟩
  | cons l ls ih =>
    obtain ⟨hl, hls⟩ := List.forall_mem_cons.1 hls
    rw [endLines_cons] at h
    rcases List.append_eq_append_iff.1 h with ⟨more, rfl, hmore⟩ | ⟨more, rfl, rfl⟩
    · cases more with
      | nil =>
        -- the cut is right before the end of the first line
        refine ⟨0, l, hl, List.append_nil l, ?_⟩
        rw [List.drop_zero, endLines_cons, hmore, List.nil_append]
      | cons y more =>
        obtain ⟨rfl, hrest⟩ := List.cons.inj hmore
        obtain ⟨k, tail, htail, rfl, hback⟩ := ih hls hrest
        refine ⟨k + 1, tail, htail, ?_, hback⟩
        rw [List.take_succ_cons, endLines_cons, List.append_assoc, List.cons_append]
    · -- the cut is in the first line
      refine ⟨0, front, fun hx => hl (List.mem_append_left more hx), rfl, ?_⟩
      rw [List.drop_zero, endLines_cons, List.append_assoc]

end Lines

/-! ### The bytes of rows -/

/-- The line feed. -/
def lineFeed : UInt8 := 10

/-- The carriage return. -/
def carriageReturn : UInt8 := 13

/-- The bytes of a row. -/
def Row.bytes (r : Row) : List UInt8 :=
  r.render.toUTF8.toList

/-- The bytes that are printed for rows. -/
def output (rows : List Row) : List UInt8 :=
  (renderLines rows).toUTF8.toList

/-- No byte of a row is a control character. -/
lemma Row.le_of_mem_bytes {r : Row} {b : UInt8} (hb : b ∈ r.bytes) : 0x20 ≤ b.toNat := by
  refine Text.le_of_mem_toUTF8 (by decide) ?_ hb
  rw [render, Json.compact, String.toList_ofList]
  exact Json.noControls_compactChars r.toJson

/-- A control character is no byte of a row. -/
lemma Row.not_mem_bytes (r : Row) {b : UInt8} (hb : b.toNat < 0x20) : b ∉ r.bytes :=
  fun hmem => absurd (le_of_mem_bytes hmem) (Nat.not_le_of_lt hb)

/-- Rows are printed one after the other, each with a line feed behind it. -/
lemma output_eq (rows : List Row) : output rows = rows.flatMap fun r => r.bytes ++ [lineFeed] := by
  have hfeed : "\n".toList.flatMap String.utf8EncodeChar = [lineFeed] := by decide
  have hline : ∀ r : Row, (r.render ++ "\n").toList.flatMap String.utf8EncodeChar
      = r.bytes ++ [lineFeed] := by
    intro r
    rw [String.toList_append, List.flatMap_append, hfeed, Row.bytes, Text.toList_toUTF8]
  rw [output, Text.toList_toUTF8, renderLines, String.toList_join, List.flatMap_assoc,
    List.flatMap_map]
  exact congrArg rows.flatMap (funext hline)

/-- The output is made of lines. -/
lemma output_eq_endLines (rows : List Row) :
    output rows = endLines lineFeed (rows.map Row.bytes) := by
  rw [output_eq, endLines, List.flatMap_map]

/-- Output that is printed batch by batch is the output of all rows. -/
lemma flatMap_output (batches : List (List Row)) :
    batches.flatMap output = output batches.flatten := by
  rw [output_eq, ← List.flatMap_id, List.flatMap_assoc]
  exact congrArg batches.flatMap (funext output_eq)

/-- No line of the output holds a line feed. -/
lemma lineFeed_not_mem (rows : List Row) : ∀ l ∈ rows.map Row.bytes, lineFeed ∉ l := by
  intro l hl
  obtain ⟨r, -, rfl⟩ := List.mem_map.1 hl
  exact r.not_mem_bytes (by decide)

/-! ### Reading rows -/

/-- A row is read back from its text by a reader that goes as deep as the row is nested. -/
lemma Row.decoder_render {r : Row} {depth : ℕ} (h : Plain depth r.toJson) :
    decoder depth r.render.toList = .ok (r, []) := by
  have hread := (h.reads Json.laysOut_compactChars 0).read [] [] nofun (by decide)
  rw [List.nil_append, List.append_nil] at hread
  rw [decoder, render, Json.compact, String.toList_ofList, Json.Decoder.map_of_value hread]
  rfl

lemma Row.read_render {r : Row} (h : Plain maxDepth r.toJson) : read r.render = .ok r := by
  rw [read, Json.Decoder.readAll, decoder_render h]
  rfl

/-- The row on a line. -/
def rowOf? (line : List UInt8) : Option Row := do
  let text ← String.fromUTF8? line.toByteArray
  (Row.read text).toOption

/-- The bytes of a row are read as its text. -/
lemma rowOf?_bytes (r : Row) : rowOf? r.bytes = (Row.read r.render).toOption := by
  rw [rowOf?, Row.bytes, Text.fromUTF8?_toByteArray, Option.bind_eq_bind, Option.bind_some]

/-! ### The output -/

/-- What stands behind lines is empty if it holds no line feed but all ends in one. -/
lemma eq_nil_of_ends {front tail : List UInt8} (htail : lineFeed ∉ tail)
    (hend : ∀ b ∈ (front ++ tail).getLast?, b = lineFeed) : tail = [] := by
  rcases List.eq_nil_or_concat tail with rfl | ⟨bs, b, rfl⟩
  · rfl
  · have hb : b = lineFeed := hend b (by simp)
    exact absurd (by simp [hb]) htail

/-- **Rows are printed on lines, and found again on them.**  The output of rows is the bytes of each
of them with a line feed behind it, whatever their keys and strings hold and however deeply they are
nested; no byte of a row is a line feed or a carriage return, and so cutting the output at the line
feeds gives the bytes of the rows and nothing behind the last one.  A row is read back from its text
by every reader that goes as deep as the row is nested, if its integers fit 64 bits; if no row is
nested deeper than the reader of rows goes, it reads the rows back from the lines, in order.  Output
that is printed batch by batch is the output of all rows at once.  Wherever output is cut in two,
the front holds the complete lines of the first rows and a part of a line, which together with the
back is the output of the other rows; a front that ends in a line feed holds no such part. -/
theorem rows_are_printed_on_lines :
    (∀ rows : List Row,
      output rows = rows.flatMap (fun r => r.bytes ++ [lineFeed]) ∧
      (∀ r ∈ rows, lineFeed ∉ r.bytes ∧ carriageReturn ∉ r.bytes) ∧
      (output rows).splitOn lineFeed = rows.map Row.bytes ++ [[]] ∧
      (∀ r ∈ rows, ∀ depth, Plain depth r.toJson →
        Row.decoder depth r.render.toList = .ok (r, [])) ∧
      ((∀ r ∈ rows, Plain maxDepth r.toJson) →
        ((output rows).splitOn lineFeed).dropLast.map rowOf? = rows.map some)) ∧
    (∀ batches : List (List Row), batches.flatMap output = output batches.flatten) ∧
    ∀ (rows : List Row) (front back : List UInt8), output rows = front ++ back →
      ∃ k tail, front = output (rows.take k) ++ tail ∧ lineFeed ∉ tail ∧
        tail ++ back = output (rows.drop k) ∧
        ((∀ b ∈ front.getLast?, b = lineFeed) → tail = []) := by
  refine ⟨fun rows => ?_, flatMap_output, fun rows front back h => ?_⟩
  · have hsplit : (output rows).splitOn lineFeed = rows.map Row.bytes ++ [[]] := by
      rw [output_eq_endLines, splitOn_endLines (lineFeed_not_mem rows)]
    refine ⟨output_eq rows, fun r _ => ⟨?_, ?_⟩, hsplit, fun r _ depth => Row.decoder_render, ?_⟩
    · exact r.not_mem_bytes (by decide)
    · exact r.not_mem_bytes (by decide)
    · intro hrows
      rw [hsplit, List.dropLast_concat, List.map_map]
      refine List.map_congr_left fun r hr => ?_
      rw [Function.comp_apply, rowOf?_bytes, Row.read_render (hrows r hr)]
      rfl
  · rw [output_eq_endLines] at h
    obtain ⟨k, tail, htail, hfront, hback⟩ := exists_cut (lineFeed_not_mem rows) h
    rw [← List.map_take, ← output_eq_endLines] at hfront
    rw [← List.map_drop, ← output_eq_endLines] at hback
    refine ⟨k, tail, hfront, htail, hback, fun hend => ?_⟩
    rw [hfront] at hend
    exact eq_nil_of_ends htail hend

/-- A row with line breaks, quotation marks and control characters in its keys and strings, with
the greatest and the least integer that fit, and with containers in containers. -/
def awkwardRow : Row :=
  ⟨[("a\n\"b\"", .string "x\r\ny\t\x01\\"),
    ("c", .array [.object [("d", Json.ofInt 18446744073709551615)],
      Json.ofInt (-9223372036854775808), .null])]⟩

lemma plain_awkwardRow : Plain maxDepth awkwardRow.toJson := by
  have hinner : Plain 125 (.object [("d", Json.ofInt 18446744073709551615)]) :=
    .object (by decide) (List.forall_mem_singleton.2 (.integer (by decide) (by decide)))
  have hlow : Plain 125 (Json.ofInt (-9223372036854775808)) := .integer (by decide) (by decide)
  refine .object (by decide) ?_
  rw [awkwardRow, List.forall_mem_cons, List.forall_mem_singleton]
  refine ⟨.string _, .array ?_⟩
  rw [List.forall_mem_cons, List.forall_mem_cons, List.forall_mem_singleton]
  exact ⟨hinner, hlow, .null⟩

/-- Two rows are found on the two lines that they are printed on, and a cut behind the first line
feed is one between them. -/
theorem awkward_rows_are_printed_on_lines :
    ((output [awkwardRow, ⟨[]⟩]).splitOn lineFeed).dropLast.map rowOf?
        = [some awkwardRow, some ⟨[]⟩] ∧
      ∃ k, output [awkwardRow] = output ([awkwardRow, ⟨[]⟩].take k) ∧
        output [⟨[]⟩] = output ([awkwardRow, ⟨[]⟩].drop k) := by
  have hempty : Plain maxDepth (Row.toJson ⟨[]⟩) := .object .nil nofun
  have hplain : ∀ r ∈ [awkwardRow, ⟨[]⟩], Plain maxDepth r.toJson := by
    intro r hr
    simp only [List.mem_cons, List.not_mem_nil, or_false] at hr
    rcases hr with rfl | rfl
    · exact plain_awkwardRow
    · exact hempty
  have hcut : output [awkwardRow, ⟨[]⟩] = output [awkwardRow] ++ output [⟨[]⟩] := by
    simp [output_eq]
  have hend : ∀ b ∈ (output [awkwardRow]).getLast?, b = lineFeed := by
    simp [output_eq]
  obtain ⟨hrows, -, hcuts⟩ := rows_are_printed_on_lines
  obtain ⟨-, -, -, -, hread⟩ := hrows [awkwardRow, ⟨[]⟩]
  obtain ⟨k, tail, hfront, -, hback, htail⟩ := hcuts _ _ _ hcut
  obtain rfl := htail hend
  rw [List.append_nil] at hfront
  exact ⟨hread hplain, k, hfront, hback⟩

/-! ### Rows that are nested too deep -/

lemma plain_nested (n : ℕ) : Plain (n + 1) (nested n) := by
  induction n with
  | zero => exact .array nofun
  | succ n ih => exact .array (List.forall_mem_singleton.2 ih)

/-- A row whose only field is nested as deep as the reader goes is not read. -/
lemma Row.decoder_render_nested (name : String) {depth n : ℕ} (h : depth ≤ n) :
    decoder (depth + 1) (render ⟨[(name, nested n)]⟩).toList = .error .malformed := by
  have htext : (render ⟨[(name, nested n)]⟩).toList
      = '\x7b' :: '"' :: (name.toList.flatMap Json.escapeChar
        ++ '"' :: ':' :: (compactChars (nested n) ++ ['\x7d'])) := by
    rw [render, Json.compact, String.toList_ofList, toJson, compactChars, Json.compactMembers]
    simp [Json.quoteChars]
  have hspace : ∀ c ∈ ([] : List Char), Json.Scan.isSpace c = true := List.forall_mem_nil _
  have hvalue := Json.value_nested Json.laysOut_compactChars h 0 [] hspace ['\x7d']
  have hnext := Json.Decoder.nextKey_first hspace (name.toList.flatMap Json.escapeChar
    ++ '"' :: ':' :: (compactChars (nested n) ++ ['\x7d']))
  rw [List.nil_append] at hvalue hnext
  rw [decoder, htext, Json.Decoder.map_error (Json.Decoder.members_error hnext
    (Json.Decoder.key_quoted name _) (Json.Decoder.colon_cons _) hvalue)]
  rfl

/-- A row with 128 containers in one another. -/
def deepRow : Row :=
  ⟨[("a", nested 126)]⟩

/-- A row that is nested one container deeper than the reader goes is printed on one line, and
nothing is read from it. -/
theorem deep_row_is_not_read :
    Plain (maxDepth + 1) deepRow.toJson ∧
      (output [deepRow]).splitOn lineFeed = [deepRow.bytes, []] ∧ rowOf? deepRow.bytes = none := by
  refine ⟨?_, ?_, ?_⟩
  · exact .object (List.pairwise_singleton _ _) (List.forall_mem_singleton.2 (plain_nested 126))
  · rw [output_eq_endLines, splitOn_endLines (lineFeed_not_mem _)]
    rfl
  · rw [rowOf?_bytes, Row.read, Json.Decoder.readAll, deepRow, maxDepth,
      Row.decoder_render_nested "a" le_rfl]
    rfl

end Engine

end Tidemark
