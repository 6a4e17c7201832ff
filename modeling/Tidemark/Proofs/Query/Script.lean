import Mathlib.Algebra.Ring.Parity
import Tidemark.Proofs.Engine.Evaluation
import Tidemark.Proofs.Query.Reading

/-!
# Literals as the reader of a script finds them

An engine reads the text of a plan as a script.  To the reader of a script a backslash in a literal
escapes the character after it, the first single quote that is not escaped ends the literal, and a
line break that is not escaped must not stand in it (`Script.scan`).  The template of each step puts
its quotes around names and values (`Script.template`), and the reader should find literals there
and nowhere else (`Script.Intended`).

Sanitizing takes the single quotes out of a value, but neither backslashes nor line breaks.  So the
reader finds the literals of some steps where they were put exactly if each of their texts can stand
in a literal (`scan_steps_iff`): its line breaks are escaped, and it does not end with an odd number
of backslashes (`Script.Containable`).
-/

namespace Tidemark.Query

namespace Script

open Reader (word quoted Unquoted)

/-! ### The reader of a script -/

/-- Where the reader of a script is. -/
inductive Place where
  | code
  | literal
  /-- In a literal, after a backslash that escapes the next character. -/
  | escape
  deriving DecidableEq

/-- What a character is to the reader of a script. -/
inductive Mark where
  | code
  | opening
  | content
  | closing
  deriving DecidableEq

/-- The characters that end a line. -/
def isLineBreak (c : Char) : Bool :=
  c = '\n' || c = '\r'

/-- What the next character is, and where the reader is after it; none where a literal is broken
off by the end of a line. -/
def take : Place → Char → Option (Mark × Place)
  | .code, c => if c = '\'' then some (.opening, .literal) else some (.code, .code)
  | .literal, c =>
    if c = '\'' then some (.closing, .code)
    else if c = '\\' then some (.content, .escape)
    else if isLineBreak c then none
    else some (.content, .literal)
  | .escape, _ => some (.content, .literal)

/-- What every character of a text is, and where the reader is at its end. -/
def scan : Place → List Char → Option (List Mark × Place)
  | p, [] => some ([], p)
  | p, c :: cs =>
    (take p c).bind fun t => (scan t.2 cs).map fun r => (t.1 :: r.1, r.2)

/-- Two texts in a row are read one after the other. -/
lemma scan_append (p : Place) (cs ds : List Char) :
    scan p (cs ++ ds)
      = (scan p cs).bind fun r => (scan r.2 ds).map fun q => (r.1 ++ q.1, q.2) := by
  induction cs generalizing p with
  | nil => simp [scan]
  | cons c cs ih =>
    simp only [List.cons_append, scan, ih]
    cases take p c with
    | none => rfl
    | some t =>
      rw [Option.bind_some, Option.bind_some]
      cases scan t.2 cs <;> simp [Function.comp_def]

/-- Code without quotes is read as code. -/
lemma scan_code {cs : List Char} (h : '\'' ∉ cs) :
    scan .code cs = some (List.replicate cs.length .code, .code) := by
  induction cs with
  | nil => rfl
  | cons c cs ih =>
    rw [List.mem_cons, not_or] at h
    simp [scan, take, Ne.symm h.1, ih h.2, List.replicate_succ]

/-! ### Texts that can stand in a literal -/

/-- The number of backslashes at the end of a text. -/
def slashes (cs : List Char) : ℕ :=
  (cs.reverse.takeWhile (· = '\\')).length

lemma slashes_concat (cs : List Char) (c : Char) :
    slashes (cs ++ [c]) = if c = '\\' then slashes cs + 1 else 0 := by
  by_cases h : c = '\\' <;> simp [slashes, h]

/-- Every line break of a text is escaped: an odd number of backslashes comes before it. -/
def BreaksEscaped (cs : List Char) : Prop :=
  ∀ front c rest, cs = front ++ c :: rest → isLineBreak c = true → Odd (slashes front)

lemma breaksEscaped_concat {cs : List Char} {c : Char} :
    BreaksEscaped (cs ++ [c]) ↔
      BreaksEscaped cs ∧ (isLineBreak c = true → Odd (slashes cs)) := by
  constructor
  · intro h
    refine ⟨?_, h cs c [] rfl⟩
    rintro front d rest rfl
    exact h front d (rest ++ [c]) (by simp)
  · rintro ⟨hcs, hc⟩ front d rest heq
    rcases List.eq_nil_or_concat rest with rfl | ⟨rest, e, rfl⟩
    · obtain ⟨rfl, hd⟩ := List.append_inj' heq rfl
      rw [← List.singleton_inj.1 hd]
      exact hc
    · rw [List.concat_eq_append, ← List.cons_append, ← List.append_assoc] at heq
      exact hcs front d rest (List.append_inj' heq rfl).1

/-- A text can stand in a literal: it neither breaks the literal off nor escapes its closing
quote. -/
structure Containable (cs : List Char) : Prop where
  breaks : BreaksEscaped cs
  even : Even (slashes cs)

/-- Without line breaks there is none to escape. -/
lemma breaksEscaped_of_not_any {cs : List Char} (h : ¬ cs.any isLineBreak = true) :
    BreaksEscaped cs := by
  rintro front c rest rfl hc
  exact absurd (List.any_eq_true.2 ⟨c, by simp, hc⟩) h

/-- A text without backslashes and line breaks needs no escapes. -/
def Harmless (s : String) : Prop :=
  ∀ c ∈ s.toList, c ≠ '\\' ∧ c ≠ '\n' ∧ c ≠ '\r'

instance : DecidablePred Harmless := fun s =>
  List.decidableBAll _ s.toList

/-- A harmless text can stand in a literal, sanitized. -/
lemma containable_sanitize {s : String} (h : Harmless s) : Containable (word (sanitize s)) := by
  rw [sanitize, Reader.word_ofList]
  have hchars : ∀ c ∈ sanitizeChars s.toList, c ≠ '\\' ∧ c ≠ '\n' ∧ c ≠ '\r' :=
    fun c hc => h c (List.mem_of_mem_filter hc)
  refine ⟨breaksEscaped_of_not_any fun hany => ?_, ?_⟩
  · obtain ⟨c, hc, hbreak⟩ := List.any_eq_true.1 hany
    obtain ⟨-, hn, hr⟩ := hchars c hc
    simp [isLineBreak, hn, hr] at hbreak
  · rcases List.eq_nil_or_concat (sanitizeChars s.toList) with hnil | ⟨front, c, hconcat⟩
    · rw [hnil]
      exact Nat.even_iff.2 rfl
    · rw [List.concat_eq_append] at hconcat
      rw [hconcat, slashes_concat, if_neg (hchars c (by simp [hconcat])).1]
      exact Nat.even_iff.2 rfl

/-- Where the reader is after a text in a literal. -/
def placeAfter (cs : List Char) : Place :=
  if Even (slashes cs) then .literal else .escape

/-- One more character in a literal, after a text whose line breaks are escaped. -/
lemma take_placeAfter {cs : List Char} {c : Char} (hquote : c ≠ '\'') :
    take (placeAfter cs) c =
      if isLineBreak c = true → Odd (slashes cs) then some (.content, placeAfter (cs ++ [c]))
      else none := by
  by_cases heven : Even (slashes cs)
  · have hodd : ¬ Odd (slashes cs) := Nat.not_odd_iff_even.2 heven
    by_cases hslash : c = '\\'
    · have hbreak : isLineBreak c = false := by
        rw [hslash]
        decide
      simp [placeAfter, slashes_concat, heven, hslash, take, Nat.even_add_one]
      decide
    · cases hbreak : isLineBreak c <;>
        simp [placeAfter, slashes_concat, heven, hslash, take, hquote, hbreak]
  · have hodd : Odd (slashes cs) := Nat.not_even_iff_odd.1 heven
    by_cases hslash : c = '\\' <;>
      simp [placeAfter, slashes_concat, heven, hodd, hslash, take]

/-- A text without quotes in a literal is content, unless a line break breaks the literal off. -/
lemma scan_literal {cs : List Char} (h : '\'' ∉ cs) :
    (BreaksEscaped cs →
      scan .literal cs = some (List.replicate cs.length .content, placeAfter cs)) ∧
    (¬ BreaksEscaped cs → scan .literal cs = none) := by
  -- the last character depends on all before it, so the induction is from the end
  induction cs using List.reverseRecOn with
  | nil => exact ⟨fun _ => rfl, fun hno => absurd (fun _ _ _ heq => by simp at heq) hno⟩
  | append_singleton cs c ih =>
    have hcs : '\'' ∉ cs := fun hmem => h (by simp [hmem])
    have hquote : c ≠ '\'' := fun heq => h (by simp [heq])
    rw [breaksEscaped_concat, scan_append]
    by_cases hfront : BreaksEscaped cs
    · rw [(ih hcs).1 hfront]
      simp only [Option.bind_some, scan, take_placeAfter hquote]
      split_ifs with hbreak
      · refine ⟨fun _ => ?_, fun hno => absurd ⟨hfront, hbreak⟩ hno⟩
        simp [List.replicate_succ']
      · exact ⟨fun hyes => absurd hyes.2 hbreak, fun _ => rfl⟩
    · rw [(ih hcs).2 hfront]
      exact ⟨fun hyes => absurd hyes.1 hfront, fun _ => rfl⟩

/-- A literal without quotes in it is read up to its own closing quote exactly if its text can stand
in a literal. -/
lemma scan_quoted_iff {s : String} (hs : Unquoted s) {rest : List Char} {ms : List Mark}
    {p : Place} :
    scan .code (quoted s ++ rest)
        = some (.opening :: (List.replicate (word s).length .content ++ .closing :: ms), p) ↔
      Containable (word s) ∧ scan .code rest = some (ms, p) := by
  have hquote : word "'" = ['\''] := by
    unfold word
    rfl
  have hchars : quoted s ++ rest = '\'' :: (word s ++ '\'' :: rest) := by
    simp [quoted, hquote]
  obtain ⟨hescaped, hbroken⟩ := scan_literal hs
  rw [hchars, scan]
  simp only [take, if_true, Option.bind_some, scan_append]
  by_cases hbreaks : BreaksEscaped (word s)
  · rw [hescaped hbreaks]
    by_cases heven : Even (slashes (word s))
    · have hplace : placeAfter (word s) = .literal := if_pos heven
      have hyes : Containable (word s) := ⟨hbreaks, heven⟩
      cases hrest : scan .code rest with
      | none => simp [hplace, scan, take, hrest]
      | some r => simp [hplace, scan, take, hrest, hyes, Prod.ext_iff]
    · -- the closing quote is escaped, and so it is read as content
      have hplace : placeAfter (word s) = .escape := if_neg heven
      have hno : ¬ Containable (word s) := fun h => heven h.even
      cases hrest : scan .literal rest with
      | none => simp [hplace, scan, take, hrest, hno]
      | some r => simp [hplace, scan, take, hrest, hno]
  · have hno : ¬ Containable (word s) := fun h => hbreaks h.breaks
    simp [hbroken hbreaks, hno]

/-! ### Templates -/

/-- A part of a call: fixed text, or the text of a literal between its quotes. -/
inductive Piece where
  | fixed (s : String)
  | literal (s : String)

namespace Piece

/-- The characters of a piece. -/
def chars : Piece → List Char
  | fixed s => word s
  | literal s => quoted s

/-- What the characters of a piece should be to the reader of a script. -/
def marks : Piece → List Mark
  | fixed s => List.replicate (word s).length .code
  | literal s => .opening :: (List.replicate (word s).length .content ++ [.closing])

/-- Neither fixed text nor the text of a literal has single quotes. -/
def Plain : Piece → Prop
  | fixed s => Unquoted s
  | literal s => Unquoted s

/-- The text of a literal can stand in a literal. -/
def Sound : Piece → Prop
  | fixed _ => True
  | literal s => Containable (word s)

/-- A piece is read as it should be exactly if it is sound. -/
lemma scan_iff {x : Piece} (hx : x.Plain) {rest : List Char} {ms : List Mark} {p : Place} :
    scan .code (x.chars ++ rest) = some (x.marks ++ ms, p) ↔
      x.Sound ∧ scan .code rest = some (ms, p) := by
  cases x with
  | fixed s =>
    have hcode : scan .code (word s) = some (List.replicate (word s).length .code, .code) :=
      scan_code hx
    simp only [chars, marks, Sound, true_and, scan_append, hcode, Option.bind_some]
    cases scan .code rest <;> simp [Prod.ext_iff]
  | literal s =>
    have hmarks : (Piece.literal s).marks ++ ms
        = .opening :: (List.replicate (word s).length .content ++ .closing :: ms) := by
      simp [marks]
    rw [hmarks]
    exact scan_quoted_iff hx

end Piece

/-- Pieces are read as they should be exactly if each of them is sound. -/
lemma scan_pieces_iff {xs : List Piece} (h : ∀ x ∈ xs, x.Plain) :
    scan .code (xs.flatMap Piece.chars) = some (xs.flatMap Piece.marks, .code) ↔
      ∀ x ∈ xs, x.Sound := by
  induction xs with
  | nil => simp [scan]
  | cons x xs ih =>
    have htail : ∀ y ∈ xs, y.Plain := fun y hy => h y (List.mem_cons_of_mem x hy)
    rw [List.flatMap_cons, List.flatMap_cons, Piece.scan_iff (h x List.mem_cons_self), ih htail,
      List.forall_mem_cons]

/-- The template of a step: the fixed parts of its call, and names and values between quotes. -/
def template : Step → List Piece
  | .whereGreater name value =>
    [.fixed ".where(op.gt(op.col(", .literal name, .fixed "), ", .literal value, .fixed "))"]
  | .orderBy direction name =>
    [.fixed (".orderBy(op." ++ direction.operator ++ "(op.col("), .literal name, .fixed ")))"]
  | .limit n => [.fixed (".limit(" ++ Text.Count.render n ++ ")")]
  | .selectAs field name =>
    [.fixed ".select(op.as(", .literal field, .fixed ", op.col(", .literal name, .fixed ")))"]

/-- The texts that a step puts between quotes. -/
def literals : Step → List String
  | .whereGreater name value => [name, value]
  | .orderBy _ name => [name]
  | .limit _ => []
  | .selectAs field name => [field, name]

/-- A call is written after its template. -/
lemma flatMap_chars_template (s : Step) :
    (template s).flatMap Piece.chars = Reader.written s := by
  cases s with
  | whereGreater name value =>
    have hopen : ".where(op.gt(op.col(" = ".where(op.gt(" ++ "op.col(" := rfl
    have hbetween : "), " = ")" ++ ", " := rfl
    simp only [template, Piece.chars, List.flatMap_cons, List.flatMap_nil, List.append_nil, hopen,
      hbetween, Reader.word_append, Reader.written, Reader.columnChars, List.append_assoc]
  | orderBy direction name =>
    have hopen : ".orderBy(op." ++ direction.operator ++ "(op.col("
        = (".orderBy(op." ++ direction.operator ++ "(") ++ "op.col(" := by
      cases direction <;> rfl
    have hclose : ")))" = ")" ++ "))" := rfl
    rw [template, hopen]
    simp only [Piece.chars, List.flatMap_cons, List.flatMap_nil, List.append_nil, hclose,
      Reader.word_append, Reader.written, Reader.columnChars, List.append_assoc]
  | limit n =>
    simp only [template, Piece.chars, List.flatMap_cons, List.flatMap_nil, List.append_nil,
      Reader.word_append, Reader.written, Text.Count.render, Reader.word_ofList, List.append_assoc]
  | selectAs field name =>
    have hbetween : ", op.col(" = ", " ++ "op.col(" := rfl
    have hclose : ")))" = ")" ++ "))" := rfl
    simp only [template, Piece.chars, List.flatMap_cons, List.flatMap_nil, List.append_nil,
      hbetween, hclose, Reader.word_append, Reader.written, Reader.columnChars, List.append_assoc]

/-- A text without single quotes, told by its characters. -/
lemma unquoted_of_toList {s : String} (h : '\'' ∉ s.toList) : Unquoted s := by
  unfold Unquoted word
  exact h

/-- The text of a call that cuts off has no single quotes. -/
lemma unquoted_limit (n : UInt64) : Unquoted (".limit(" ++ Text.Count.render n ++ ")") := by
  have hdigits : '\'' ∉ Text.Count.digits n.toNat := by
    intro hmem
    exact absurd (Nat.isDigit_of_mem_toDigits (by decide) (by decide) hmem) (by decide)
  refine unquoted_of_toList ?_
  simp [Text.Count.render, hdigits]

/-- The template of a step whose names and values can be written has no other single quotes. -/
lemma plain_template {s : Step} (hs : Reader.Writable s) : ∀ x ∈ template s, x.Plain := by
  have hfixed : ∀ {s : String}, '\'' ∉ s.toList → (Piece.fixed s).Plain := unquoted_of_toList
  cases s with
  | whereGreater name value =>
    simp only [template, List.forall_mem_cons]
    exact ⟨hfixed (by decide), hs.1, hfixed (by decide), hs.2, hfixed (by decide), by simp⟩
  | orderBy direction name =>
    simp only [template, List.forall_mem_cons]
    exact ⟨hfixed (by cases direction <;> decide), hs, hfixed (by decide), by simp⟩
  | limit n =>
    simp only [template, List.forall_mem_cons]
    exact ⟨unquoted_limit n, by simp⟩
  | selectAs field name =>
    simp only [template, List.forall_mem_cons]
    exact ⟨hfixed (by decide), hs.1, hfixed (by decide), hs.2, hfixed (by decide), by simp⟩

/-- The template of a step is sound exactly if its texts can stand in literals. -/
lemma sound_template_iff (s : Step) :
    (∀ x ∈ template s, x.Sound) ↔ ∀ t ∈ literals s, Containable (word t) := by
  cases s <;> simp [template, literals, Piece.Sound]

/-! ### The literals of a plan -/

/-- What the characters of some calls should be to the reader of a script. -/
def marks (ss : List Step) : List Mark :=
  (ss.flatMap template).flatMap Piece.marks

/-- **The literals of some calls are found where they were put exactly if their texts can stand in a
literal.** -/
theorem scan_steps_iff {ss : List Step} (h : ∀ s ∈ ss, Reader.Writable s) :
    scan .code (ss.flatMap Reader.written) = some (marks ss, .code) ↔
      ∀ s ∈ ss, ∀ t ∈ literals s, Containable (word t) := by
  have hplain : ∀ x ∈ ss.flatMap template, x.Plain := by
    intro x hx
    obtain ⟨s, hs, hx⟩ := List.mem_flatMap.1 hx
    exact plain_template (h s hs) x hx
  have hchars : ss.flatMap Reader.written = (ss.flatMap template).flatMap Piece.chars := by
    rw [List.flatMap_assoc]
    exact List.flatMap_congr fun s _ => (flatMap_chars_template s).symm
  rw [hchars, marks, scan_pieces_iff hplain]
  simp only [List.mem_flatMap, forall_exists_index, and_imp, ← sound_template_iff]
  exact ⟨fun hall s hs x hx => hall x s hs hx, fun hall x s hs hx => hall s hs x hx⟩

/-- A plan over a base query that is given as text has its literals where the templates of some
steps put them. -/
def Intended (source : String) (plan : Plan) (ss : List Step) : Prop :=
  ∃ front suffix, Text.EndTrimmed source front ∧ plan = .text (front ++ suffix) ∧
    scan .code (word suffix) = some (marks (ss.map (Step.mapNames sanitize)), .code)

/-- A plan is as intended exactly if the sanitized names and values of its steps can stand in
literals. -/
lemma intended_plan_iff {source : String} {ss : List Step} :
    Intended source ((Base.text source).plan ss) ss ↔
      ∀ s ∈ ss, ∀ t ∈ literals s, Containable (word (sanitize t)) := by
  have hwritable : ∀ s ∈ ss.map (Step.mapNames sanitize), Reader.Writable s := by
    intro s hs
    obtain ⟨s, -, rfl⟩ := List.mem_map.1 hs
    exact Reader.writable_mapNames_sanitize s
  have hliterals : ∀ s : Step, literals (s.mapNames sanitize) = (literals s).map sanitize := by
    intro s
    cases s <;> rfl
  have hscan := scan_steps_iff hwritable
  rw [← Reader.word_join] at hscan
  simp only [List.forall_mem_map, hliterals] at hscan
  rw [← hscan]
  constructor
  · rintro ⟨front, suffix, hfront, hplan, hread⟩
    obtain rfl := Text.endTrimmed_iff.1 hfront
    have htext := congrArg word (Plan.text.inj hplan)
    rw [Reader.word_append, Reader.word_append] at htext
    rwa [List.append_cancel_left htext]
  · intro hread
    exact ⟨_, _, Text.endTrimmed_trimmedEnd source, rfl, hread⟩

/-- The names that a job puts into its plans are those of its column and of the greatest value. -/
lemma forall_literals_rowSteps_iff {P : String → Prop} {k : Constraint} {previous : Option String}
    (hcolumn : P k.column) :
    (∀ s ∈ Rewriter.rowSteps (some k) previous, ∀ t ∈ literals s, P t) ↔
      ∀ value, previous = some value → P value := by
  cases previous <;> cases k.rowLimit <;> simp [Rewriter.rowSteps, literals, hcolumn]

lemma forall_literals_maxSteps {P : String → Prop} {k : Constraint} (hcolumn : P k.column)
    (hfield : P Rewriter.maxField) : ∀ s ∈ Rewriter.maxSteps k, ∀ t ∈ literals s, P t := by
  simp [Rewriter.maxSteps, literals, hcolumn, hfield]

/-- **Literals end where they were written exactly if the previous value can stand in a literal.**
For a job over a text whose column has no backslashes and line breaks, and for every previous value,
the reader of a script finds the literals of the row plan and of the max-value plan where the
templates put them exactly if the line breaks of the sanitized value are escaped and it does not end
with an odd number of backslashes. -/
theorem literals_end_where_written_iff {k : Constraint} (hk : Harmless k.column) (source : String)
    (current : List Step) (previous : Option String) :
    let r : Rewriter := ⟨.text source, some k, current⟩
    let page := Engine.pageSteps k.column previous k.rowLimit
    let greatest := Engine.greatestSteps "constraint" k.column
    let containable := ∀ value, previous = some value → Containable (word (sanitize value))
    (Intended source (r.rowPlan previous).1 page ↔ containable) ∧
      (∃ plan, (r.rowPlan previous).2.maxPlan = some plan ∧
        (Intended source plan (page ++ greatest) ↔ containable)) ∧
      ∃ plan, (Rewriter.new (.text source) (some k)).maxPlan = some plan ∧
        Intended source plan greatest := by
  intro r page greatest containable
  have hcolumn : Containable (word (sanitize k.column)) := containable_sanitize hk
  have hfield : Containable (word (sanitize Rewriter.maxField)) :=
    containable_sanitize (by decide)
  have hpage : (∀ s ∈ page, ∀ t ∈ literals s, Containable (word (sanitize t))) ↔ containable :=
    forall_literals_rowSteps_iff hcolumn
  have hgreatest : ∀ s ∈ greatest, ∀ t ∈ literals s, Containable (word (sanitize t)) :=
    forall_literals_maxSteps hcolumn hfield
  refine ⟨?_, ⟨_, rfl, ?_⟩, ⟨_, rfl, ?_⟩⟩
  · rw [← hpage]
    exact intended_plan_iff
  · rw [← hpage]
    refine intended_plan_iff.trans ?_
    rw [List.forall_mem_append]
    exact and_iff_left hgreatest
  · exact intended_plan_iff.2 hgreatest

/-- The column `ID`, without a row limit. -/
def onId : Constraint :=
  ⟨"ID", none, by decide, by decide⟩

/-- A backslash inside a value does no harm. -/
theorem literal_of_windows_path_ends_where_written :
    Harmless onId.column ∧ Containable (word (sanitize "C:\\data")) ∧
      Intended "op.view()"
        ((Rewriter.new (.text "op.view()") (some onId)).rowPlan (some "C:\\data")).1
        [.whereGreater "ID" "C:\\data", .orderBy .ascending "ID"] := by
  have hk : Harmless onId.column := by decide
  have hchars : word (sanitize "C:\\data") = "C:\\data".toList := by
    with_unfolding_all rfl
  have hvalue : Containable (word (sanitize "C:\\data")) := by
    rw [hchars]
    exact ⟨breaksEscaped_of_not_any (by decide), by decide⟩
  obtain ⟨hrow, -⟩ := literals_end_where_written_iff hk "op.view()" [] (some "C:\\data")
  exact ⟨hk, hvalue, hrow.2 (by rintro _ ⟨rfl⟩; exact hvalue)⟩

/-- A backslash at the end of a value escapes the closing quote.  The literal then runs on to the
opening quote of the column behind it, and the last literal of the plan is never closed. -/
theorem trailing_backslash_escapes_closing_quote :
    let steps : List Step := [.whereGreater "ID" "6\\", .orderBy .ascending "ID"]
    Harmless onId.column ∧
      ((Rewriter.new (.text "op.view()") (some onId)).rowPlan (some "6\\")).1
        = .text ("op.view()" ++ String.join (steps.map Step.text)) ∧
      ¬ Intended "op.view()"
        ((Rewriter.new (.text "op.view()") (some onId)).rowPlan (some "6\\")).1 steps ∧
      ∃ ms, scan .code (word (String.join (steps.map Step.text))) = some (ms, .literal) := by
  intro steps
  refine ⟨by decide, rfl, ?_, ?_⟩
  · intro hintended
    have hall : ∀ s ∈ steps, ∀ t ∈ literals s, Containable (word (sanitize t)) :=
      intended_plan_iff.1 hintended
    have hvalue := hall (.whereGreater "ID" "6\\") List.mem_cons_self "6\\" (by simp [literals])
    have hchars : word (sanitize "6\\") = ['6', '\\'] := by
      with_unfolding_all rfl
    have heven := hvalue.even
    rw [hchars] at heven
    exact absurd heven (by decide)
  · have hread : (scan .code (word (String.join (steps.map Step.text)))).map Prod.snd
        = some .literal := by
      decide +kernel
    obtain ⟨r, hr, hplace⟩ := Option.map_eq_some_iff.1 hread
    exact ⟨r.1, by rw [hr, ← hplace]⟩

end Script

end Tidemark.Query
