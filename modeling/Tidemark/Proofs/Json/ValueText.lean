import Mathlib.Data.List.Forall2
import Mathlib.Data.List.Induction
import Mathlib.Data.String.Basic
import Tidemark.Proofs.Json.Integer
import Tidemark.Proofs.Json.Record

/-!
# Values survive their JSON text

The text of a value is read back whatever blanks stand before it, and whatever follows it that
cannot belong to a number (`Reads`).  An array or an object is read back if its parts are, wherever
blanks stand between them (`items_joined`, `members_joined`); its printer only says where they
stand (`LaysOut`).  What has to be known of a value is that it is nested no deeper than the reader
goes, that its integers fit 64 bits and that the keys of its objects ascend (`Plain`).
-/

namespace Tidemark

namespace Members

variable {α : Type}

instance (ms : List (String × α)) : Decidable (Ascending ms) :=
  inferInstanceAs (Decidable ((ms.map Prod.fst).Pairwise (· < ·)))

lemma insert_of_forall_lt {k : String} {v : α} {ms : List (String × α)} (h : ∀ m ∈ ms, m.1 < k) :
    insert k v ms = ms ++ [(k, v)] := by
  induction ms with
  | nil => rfl
  | cons m ms ih =>
    obtain ⟨l, w⟩ := m
    have hl : l < k := h (l, w) (by simp)
    rw [insert, if_neg (lt_asymm hl), if_neg (ne_of_gt hl),
      ih fun m hm => h m (List.mem_cons_of_mem _ hm), List.cons_append]

/-- Members whose keys ascend are in key order already. -/
lemma ofPairs_of_ascending {ms : List (String × α)} (h : Ascending ms) : ofPairs ms = ms := by
  induction ms using List.reverseRecOn with
  | nil => rfl
  | append_singleton ms m ih =>
    rw [Ascending, List.map_append, List.pairwise_append] at h
    obtain ⟨hfront, -, hlast⟩ := h
    have hms : ofPairs ms = ms := ih hfront
    rw [ofPairs] at hms ⊢
    rw [List.foldl_append, hms]
    exact insert_of_forall_lt fun l hl => hlast l.1 (List.mem_map_of_mem hl) m.1 (by simp)

end Members

namespace Json.Decoder

open Scan

variable {α : Type}

/-! ### Texts with blanks before them -/

/-- A text starts with a character that is no blank and neither ends nor separates items. -/
def StartsItem (text : List Char) : Prop :=
  ∃ c cs, text = c :: cs ∧ isSpace c = false ∧ c ≠ ']' ∧ c ≠ ','

/-- A decoder reads a value from its text, whatever blanks stand before it and whatever follows that
cannot belong to a number. -/
structure Reads (d : List Char → Except Fault (α × List Char)) (text : List Char) (v : α) :
    Prop where
  starts : StartsItem text
  read : ∀ sp rest, (∀ c ∈ sp, isSpace c = true) → EndsNumber rest →
    d (sp ++ (text ++ rest)) = .ok (v, rest)

lemma StartsItem.ne_nil {text : List Char} (h : StartsItem text) : text ≠ [] := by
  obtain ⟨c, cs, rfl, -⟩ := h
  exact List.cons_ne_nil c cs

lemma endsNumber_of_isSpace {sp rest : List Char} (hsp : ∀ c ∈ sp, isSpace c = true)
    (hrest : EndsNumber rest) : EndsNumber (sp ++ rest) := by
  cases sp with
  | nil => exact hrest
  | cons c sp =>
    have hc : isSpace c = true := hsp c (by simp)
    simp only [isSpace, Bool.or_eq_true, decide_eq_true_eq] at hc
    rw [List.cons_append, endsNumber_cons]
    rcases hc with ((rfl | rfl) | rfl) | rfl <;> decide

/-! ### Items -/

/-- Texts with commas between them, each after blanks.  A comma also comes before the first of these
texts if it is not the first of all. -/
def joined (sp : List Char) : Bool → List (List Char) → List Char
  | _, [] => []
  | true, t :: ts => sp ++ (t ++ joined sp false ts)
  | false, t :: ts => ',' :: (sp ++ (t ++ joined sp false ts))

@[simp] lemma joined_nil (sp : List Char) (first : Bool) : joined sp first [] = [] := by
  cases first <;> rfl

lemma length_le_joined (sp : List Char) (ts : List (List Char)) :
    ts.length ≤ (joined sp false ts).length := by
  induction ts with
  | nil => exact Nat.le_refl 0
  | cons t ts ih =>
    simp only [joined, List.length_cons, List.length_append]
    omega

/-- A function that puts a comma before every text but the first one joins them. -/
lemma eq_joined {sp : List Char} {t : α → List Char} {f : List α → List Char} (hnil : f [] = [])
    (hone : ∀ v, f [v] = sp ++ t v)
    (hmore : ∀ v w vs, f (v :: w :: vs) = sp ++ (t v ++ ',' :: f (w :: vs))) (vs : List α) :
    f vs = joined sp true (vs.map t) := by
  induction vs with
  | nil => exact hnil
  | cons v vs ih =>
    cases vs with
    | nil => rw [hone, List.map_singleton, joined, joined_nil, List.append_nil]
    | cons w vs =>
      rw [hmore, ih]
      rfl

/-- There are no more texts than characters. -/
lemma length_lt_joined (ts : List (List Char)) (h : ∀ t ∈ ts, t ≠ []) (sp more : List Char) :
    ts.length < (joined sp true ts ++ more).length + 1 := by
  cases ts with
  | nil => simp
  | cons t ts =>
    have hpos : 0 < t.length := List.length_pos_iff.2 (h t (by simp))
    have hlater := length_le_joined sp ts
    simp only [joined, List.length_cons, List.length_append]
    omega

section Blanks

variable {sp close : List Char} (hsp : ∀ c ∈ sp, isSpace c = true)
  (hclose : ∀ c ∈ close, isSpace c = true)

include hclose in
/-- After a text comes a comma, or the blanks and the bracket that close a container. -/
lemma endsNumber_joined (sp : List Char) {x : Char} (hx : EndsNumber [x])
    (ts : List (List Char)) (rest : List Char) :
    EndsNumber (joined sp false ts ++ (close ++ x :: rest)) := by
  cases ts with
  | nil =>
    rw [joined_nil, List.nil_append]
    exact endsNumber_of_isSpace hclose (endsNumber_cons.2 (endsNumber_cons.1 hx))
  | cons t ts =>
    rw [joined, List.cons_append, endsNumber_cons]
    decide

include hsp in
/-- The first item starts at the first character that is no blank. -/
lemma nextItem_first {t : List Char} (ht : StartsItem t) (more : List Char) :
    nextItem true (sp ++ (t ++ more)) = .ok (some (t ++ more)) := by
  obtain ⟨c, cs, rfl, hc, hbracket, hcomma⟩ := ht
  rw [List.cons_append, nextItem, skipSpace_append hsp hc]
  split
  · next h => exact absurd (List.cons.inj h).1 hbracket
  · next h => exact absurd (List.cons.inj h).1 hcomma
  · simp

include hsp in
/-- A later item starts at the first character after a comma that is no blank. -/
lemma nextItem_later {t : List Char} (ht : StartsItem t) (more : List Char) :
    nextItem false (',' :: (sp ++ (t ++ more))) = .ok (some (t ++ more)) := by
  obtain ⟨c, cs, rfl, hc, hbracket, -⟩ := ht
  have hskip : skipSpace (sp ++ (c :: cs ++ more)) = c :: (cs ++ more) := skipSpace_append hsp hc _
  rw [nextItem, skipSpace_cons (by decide)]
  simp only [Bool.false_eq_true, if_false, hskip]
  split
  · next h => exact absurd (List.cons.inj h).1 hbracket
  · rfl

include hsp in
/-- The next item starts behind the blanks, and behind a comma unless it is the first one. -/
lemma nextItem_joined {t : List Char} (ht : StartsItem t) (first : Bool) (ts : List (List Char))
    (more : List Char) :
    nextItem first (joined sp first (t :: ts) ++ more)
      = .ok (some (t ++ (joined sp false ts ++ more))) := by
  cases first with
  | true =>
    rw [joined, List.append_assoc, List.append_assoc]
    exact nextItem_first hsp ht _
  | false =>
    rw [joined, List.cons_append, List.append_assoc, List.append_assoc]
    exact nextItem_later hsp ht _

include hclose in
/-- The closing bracket ends the items. -/
lemma nextItem_close (first : Bool) (rest : List Char) :
    nextItem first (close ++ ']' :: rest) = .ok none := by
  rw [nextItem, skipSpace_append hclose (by decide)]
  rfl

include hclose in
/-- The closing bracket ends the sequence. -/
lemma closeItems_append (rest : List Char) : closeItems (close ++ ']' :: rest) = .ok rest := by
  rw [closeItems, skipSpace_append hclose (by decide)]
  rfl

variable {item : List Char → Except Fault (α × List Char)}

lemma items_none {fuel : ℕ} {first : Bool} {cs : List Char} (h : nextItem first cs = .ok none) :
    items item (fuel + 1) first cs = .ok ([], cs) := by
  simp [items, h, bind, Except.bind, pure, Except.pure]

lemma items_some {fuel : ℕ} {first : Bool} {cs cs₁ cs₂ cs₃ : List Char} {v : α} {vs : List α}
    (hnext : nextItem first cs = .ok (some cs₁)) (hitem : item cs₁ = .ok (v, cs₂))
    (hlater : items item fuel false cs₂ = .ok (vs, cs₃)) :
    items item (fuel + 1) first cs = .ok (v :: vs, cs₃) := by
  simp [items, hnext, hitem, hlater, bind, Except.bind, pure, Except.pure]

include hsp hclose in
/-- Items are read back up to the blanks before the closing bracket, wherever blanks stand. -/
lemma items_joined {ts : List (List Char)} {vs : List α} (h : List.Forall₂ (Reads item) ts vs)
    {fuel : ℕ} (hfuel : ts.length < fuel) (first : Bool) (rest : List Char) :
    items item fuel first (joined sp first ts ++ (close ++ ']' :: rest))
      = .ok (vs, close ++ ']' :: rest) := by
  induction h generalizing fuel first with
  | nil =>
    obtain ⟨fuel, rfl⟩ := Nat.exists_eq_add_one.2 hfuel
    rw [joined_nil]
    exact items_none (nextItem_close hclose first rest)
  | @cons t v ts vs ht hts ih =>
    obtain ⟨fuel, rfl⟩ := Nat.exists_eq_add_one.2 (Nat.zero_lt_of_lt hfuel)
    have hends := endsNumber_joined hclose sp (x := ']') (by decide) ts rest
    exact items_some (nextItem_joined hsp ht.starts first ts _) (ht.read [] _ nofun hends)
      (ih (Nat.lt_of_succ_lt_succ hfuel) false)

/-! ### Members -/

/-- The text of a member: its key, a colon, blanks and its value. -/
def memberText (gap : List Char) (m : String × List Char) : List Char :=
  quoteChars m.1.toList ++ ':' :: (gap ++ m.2)

lemma memberText_append (gap : List Char) (m : String × List Char) (more : List Char) :
    memberText gap m ++ more
      = '"' :: (m.1.toList.flatMap escapeChar ++ '"' :: ':' :: (gap ++ (m.2 ++ more))) := by
  simp [memberText, quoteChars]

/-- The value of a member is read from its text, and its key is the one that is written. -/
def ReadsMember (value : List Char → Except Fault (α × List Char)) (m : String × List Char)
    (w : String × α) : Prop :=
  m.1 = w.1 ∧ Reads value m.2 w.2

variable {gap : List Char} (hgap : ∀ c ∈ gap, isSpace c = true)
  {value : List Char → Except Fault (α × List Char)}

lemma members_none {fuel : ℕ} {first : Bool} {cs : List Char} (h : nextKey first cs = .ok none) :
    members key value (fuel + 1) first cs = .ok ([], cs) := by
  simp [members, h, bind, Except.bind, pure, Except.pure]

lemma members_some {fuel : ℕ} {first : Bool} {cs cs₁ cs₂ cs₃ cs₄ cs₅ : List Char} {k : String}
    {v : α} {ms : List (String × α)} (hnext : nextKey first cs = .ok (some cs₁))
    (hkey : key cs₁ = .ok (k, cs₂)) (hcolon : colon cs₂ = .ok cs₃)
    (hvalue : value cs₃ = .ok (v, cs₄))
    (hlater : members key value fuel false cs₄ = .ok (ms, cs₅)) :
    members key value (fuel + 1) first cs = .ok ((k, v) :: ms, cs₅) := by
  simp [members, hnext, hkey, hcolon, hvalue, hlater, bind, Except.bind, pure, Except.pure]

lemma members_error {fuel : ℕ} {first : Bool} {cs cs₁ cs₂ cs₃ : List Char} {k : String}
    {fault : Fault} (hnext : nextKey first cs = .ok (some cs₁)) (hkey : key cs₁ = .ok (k, cs₂))
    (hcolon : colon cs₂ = .ok cs₃) (hvalue : value cs₃ = .error fault) :
    members key value (fuel + 1) first cs = .error fault := by
  simp [members, hnext, hkey, hcolon, hvalue, bind, Except.bind]

include hsp in
/-- The next key starts behind the blanks, and behind a comma unless it is the first one. -/
lemma nextKey_joined (m : String × List Char) (first : Bool) (ts : List (List Char))
    (more : List Char) :
    nextKey first (joined sp first (memberText gap m :: ts) ++ more)
      = .ok (some (m.1.toList.flatMap escapeChar
          ++ '"' :: ':' :: (gap ++ (m.2 ++ (joined sp false ts ++ more))))) := by
  cases first with
  | true =>
    rw [joined, List.append_assoc, List.append_assoc, memberText_append]
    exact nextKey_first hsp _
  | false =>
    rw [joined, List.cons_append, List.append_assoc, List.append_assoc, memberText_append]
    exact nextKey_later hsp _

include hsp hclose hgap in
/-- Members are read back up to the blanks before the closing brace, wherever blanks stand. -/
lemma members_joined {ts : List (String × List Char)} {ms : List (String × α)}
    (h : List.Forall₂ (ReadsMember value) ts ms) {fuel : ℕ} (hfuel : ts.length < fuel)
    (first : Bool) (rest : List Char) :
    members key value fuel first
        (joined sp first (ts.map (memberText gap)) ++ (close ++ '\x7d' :: rest))
      = .ok (ms, close ++ '\x7d' :: rest) := by
  induction h generalizing fuel first with
  | nil =>
    obtain ⟨fuel, rfl⟩ := Nat.exists_eq_add_one.2 hfuel
    rw [List.map_nil, joined_nil]
    exact members_none (nextKey_close hclose first rest)
  | @cons t m ts ms ht hts ih =>
    obtain ⟨fuel, rfl⟩ := Nat.exists_eq_add_one.2 (Nat.zero_lt_of_lt hfuel)
    obtain ⟨k, v⟩ := m
    obtain ⟨rfl, hvalue⟩ : t.1 = k ∧ Reads value t.2 v := ht
    have hends :=
      endsNumber_joined hclose sp (x := '\x7d') (by decide) (ts.map (memberText gap)) rest
    exact members_some (nextKey_joined hsp t first _ _) (key_quoted t.1 _) (colon_cons _)
      (hvalue.read gap _ hgap hends) (ih (Nat.lt_of_succ_lt_succ hfuel) false)

end Blanks

/-! ### Values -/

section Values

variable {sp : List Char} (hsp : ∀ c ∈ sp, isSpace c = true) (depth : ℕ)

include hsp in
lemma value_quoted (s : String) (rest : List Char) :
    value depth (sp ++ (quoteChars s.toList ++ rest)) = .ok (.string s, rest) := by
  rw [quoteChars_append, value, skipSpace_append hsp (by decide)]
  simp [stringBody_quoted, Except.map]

include hsp in
lemma value_null (rest : List Char) :
    value depth (sp ++ (['n', 'u', 'l', 'l'] ++ rest)) = .ok (.null, rest) := by
  rw [List.cons_append, value, skipSpace_append hsp (by decide)]
  simp [expect, Except.map]

include hsp in
lemma value_true (rest : List Char) :
    value depth (sp ++ (['t', 'r', 'u', 'e'] ++ rest)) = .ok (.bool true, rest) := by
  rw [List.cons_append, value, skipSpace_append hsp (by decide)]
  simp [expect, Except.map]

include hsp in
lemma value_false (rest : List Char) :
    value depth (sp ++ (['f', 'a', 'l', 's', 'e'] ++ rest)) = .ok (.bool false, rest) := by
  rw [List.cons_append, value, skipSpace_append hsp (by decide)]
  simp [expect, Except.map]

/-- A digit or a sign is not a character that starts anything else. -/
lemma ne_of_isDigit {c x : Char} (hc : c.isDigit = true ∨ c = '-') (hx : x.isDigit = false)
    (hminus : x ≠ '-') : c ≠ x := by
  rintro rfl
  rcases hc with hc | rfl
  · rw [hx] at hc
    cases hc
  · exact hminus rfl

lemma isSpace_of_isDigit {c : Char} (hc : c.isDigit = true ∨ c = '-') : isSpace c = false := by
  have hne : ∀ x, x.isDigit = false → x ≠ '-' → c ≠ x := fun _ => ne_of_isDigit hc
  simp [isSpace, hne ' ' (by decide) (by decide), hne '\t' (by decide) (by decide),
    hne '\n' (by decide) (by decide), hne '\r' (by decide) (by decide)]

/-- The text of an integer starts with a digit or a sign. -/
lemma exists_renderInt_eq_cons (n : Int) :
    ∃ c cs, Numeral.renderInt n = c :: cs ∧ (c.isDigit = true ∨ c = '-') := by
  unfold Numeral.renderInt
  split
  · exact ⟨'-', _, rfl, .inr rfl⟩
  · obtain ⟨c, cs, hcs⟩ :=
      List.exists_cons_of_ne_nil (Nat.toDigits_ne_nil (b := 10) (n := n.natAbs))
    exact ⟨c, cs, hcs, .inl (isDigit_of_mem_toDigits (n := n.natAbs) (by simp [hcs]))⟩

include hsp in
/-- A text that starts with a digit or a sign is read as a number. -/
lemma value_numeral {c : Char} (hc : c.isDigit = true ∨ c = '-') {cs rest : List Char}
    {n : Numeral} (h : numeral (c :: cs) = .ok (n, rest)) :
    value depth (sp ++ c :: cs) = .ok (.number n, rest) := by
  have hne : ∀ x, x.isDigit = false → x ≠ '-' → c ≠ x := fun _ => ne_of_isDigit hc
  rw [value, skipSpace_append hsp (isSpace_of_isDigit hc)]
  split
  case h_7 =>
    rw [h]
    rfl
  -- nothing else starts with a digit or a sign
  all_goals
    next heq => exact absurd (List.cons.inj heq).1 (hne _ (by decide) (by decide))

include hsp in
lemma value_array {cs cs₁ rest : List Char} {vs : List Json}
    (hitems : items (value depth) (cs.length + 1) true cs = .ok (vs, cs₁))
    (hclose : closeItems cs₁ = .ok rest) :
    value (depth + 1) (sp ++ '[' :: cs) = .ok (.array vs, rest) := by
  rw [value, skipSpace_append hsp (by decide)]
  simp [hitems, hclose, bind, Except.bind, pure, Except.pure]

include hsp in
lemma value_object {cs cs₁ rest : List Char} {ms : List (String × Json)}
    (hmembers : members key (value depth) (cs.length + 1) true cs = .ok (ms, cs₁))
    (hclose : closeMembers cs₁ = .ok rest) :
    value (depth + 1) (sp ++ '\x7b' :: cs) = .ok (Json.ofMembers ms, rest) := by
  rw [value, skipSpace_append hsp (by decide)]
  simp [hmembers, hclose, bind, Except.bind, pure, Except.pure]

end Values

/-- An object is read as its members where it is read as a value. -/
lemma map_of_value {depth : ℕ} {cs rest : List Char} {ms : List (String × Json)}
    (h : value depth cs = .ok (.object ms, rest)) :
    map value depth cs = .ok (ms, rest) := by
  rw [value] at h
  rw [map]
  split at h
  case h_6 cs' heq =>
    rw [heq]
    cases depth with
    | zero => cases h
    | succ depth =>
      obtain ⟨⟨ps, cs₁⟩, hmembers, h⟩ := exists_of_bind_eq_ok h
      obtain ⟨cs₂, hclose, h⟩ := exists_of_bind_eq_ok h
      cases h
      simp [hmembers, hclose, bind, Except.bind, pure, Except.pure]
  case h_5 =>
    cases depth with
    | zero => cases h
    | succ depth =>
      obtain ⟨⟨vs, cs₁⟩, -, h⟩ := exists_of_bind_eq_ok h
      obtain ⟨cs₂, -, h⟩ := exists_of_bind_eq_ok h
      cases h
  -- nothing else is an object
  all_goals
    obtain ⟨_, -, h⟩ := exists_of_map_eq_ok h
    cases h

/-- What is wrong with the members of an object is wrong with the object. -/
lemma map_error {item : Decoder α} {depth : ℕ} {cs : List Char} {fault : Fault}
    (h : members key (item depth) (cs.length + 1) true cs = .error fault) :
    map item (depth + 1) ('\x7b' :: cs) = .error fault := by
  rw [map, skipSpace_cons (by decide)]
  simp [h, bind, Except.bind]

end Json.Decoder

/-! ### Laying out containers -/

namespace Json

open Decoder Scan

/-- A way of writing values at a level of indentation: a container is written as its parts with
commas between them, and the blanks before the parts, before the closing bracket and after the
colons depend on the container; everything else is written as in the compact text. -/
structure LaysOut (text : ℕ → Json → List Char) : Prop where
  null : ∀ level, text level .null = compactChars .null
  bool : ∀ level b, text level (.bool b) = compactChars (.bool b)
  number : ∀ level n, text level (.number n) = compactChars (.number n)
  string : ∀ level s, text level (.string s) = compactChars (.string s)
  array : ∀ level vs, ∃ sp close : List Char, (∀ c ∈ sp, isSpace c = true) ∧
    (∀ c ∈ close, isSpace c = true) ∧ text level (.array vs)
      = '[' :: (joined sp true (vs.map (text (level + 1))) ++ (close ++ [']']))
  object : ∀ level ms, ∃ sp gap close : List Char, (∀ c ∈ sp, isSpace c = true) ∧
    (∀ c ∈ gap, isSpace c = true) ∧ (∀ c ∈ close, isSpace c = true) ∧ text level (.object ms)
      = '\x7b' :: (joined sp true ((ms.map fun m => (m.1, text (level + 1) m.2)).map
          (memberText gap)) ++ (close ++ ['\x7d']))

/-- Values that fit a reader: containers are nested at most so deep, integers fit 64 bits, and the
keys of objects ascend. -/
inductive Plain : ℕ → Json → Prop
  | null {depth} : Plain depth .null
  | bool {depth} (b : Bool) : Plain depth (.bool b)
  | string {depth} (s : String) : Plain depth (.string s)
  | integer {depth} {n : Int} (hlow : -0x8000000000000000 ≤ n) (hhigh : n < 0x10000000000000000) :
      Plain depth (.number (.integer n))
  | array {depth} {vs : List Json} (h : ∀ v ∈ vs, Plain depth v) : Plain (depth + 1) (.array vs)
  | object {depth} {ms : List (String × Json)} (hkeys : Members.Ascending ms)
      (h : ∀ m ∈ ms, Plain depth m.2) : Plain (depth + 1) (.object ms)

/-- A value that fits a reader is read back from its text, wherever blanks are laid out. -/
theorem Plain.reads {text : ℕ → Json → List Char} (htext : LaysOut text) {depth : ℕ} {v : Json}
    (h : Plain depth v) (level : ℕ) : Reads (value depth) (text level v) v := by
  induction h generalizing level with
  | null =>
    rw [htext.null]
    refine ⟨⟨'n', _, rfl, by decide, by decide, by decide⟩, ?_⟩
    intro sp rest hsp _
    exact value_null hsp _ rest
  | bool b =>
    rw [htext.bool]
    cases b with
    | false =>
      refine ⟨⟨'f', _, rfl, by decide, by decide, by decide⟩, ?_⟩
      intro sp rest hsp _
      exact value_false hsp _ rest
    | true =>
      refine ⟨⟨'t', _, rfl, by decide, by decide, by decide⟩, ?_⟩
      intro sp rest hsp _
      exact value_true hsp _ rest
  | string s =>
    rw [htext.string]
    refine ⟨⟨'"', _, rfl, by decide, by decide, by decide⟩, ?_⟩
    intro sp rest hsp _
    exact value_quoted hsp _ s rest
  | @integer depth n hlow hhigh =>
    obtain ⟨c, cs, hcs, hc⟩ := exists_renderInt_eq_cons n
    have htext : text level (.number (.integer n)) = c :: cs := (htext.number level _).trans hcs
    rw [htext]
    refine ⟨⟨c, cs, rfl, isSpace_of_isDigit hc, ne_of_isDigit hc (by decide) (by decide),
      ne_of_isDigit hc (by decide) (by decide)⟩, ?_⟩
    intro sp rest hsp hrest
    have hnumeral := numeral_renderInt hlow hhigh hrest
    rw [hcs] at hnumeral
    exact value_numeral hsp depth hc hnumeral
  | @array depth vs h ih =>
    obtain ⟨sp, close, hsp, hclose, htext⟩ := htext.array level vs
    rw [htext]
    refine ⟨⟨'[', _, rfl, by decide, by decide, by decide⟩, ?_⟩
    intro before rest hbefore _
    have hparts : List.Forall₂ (Reads (value depth)) (vs.map (text (level + 1))) vs := by
      rw [List.forall₂_map_left_iff, List.forall₂_same]
      exact fun v hv => ih v hv (level + 1)
    have hfuel := length_lt_joined (vs.map (text (level + 1))) (by
      intro t ht
      obtain ⟨v, hv, rfl⟩ := List.mem_map.1 ht
      exact (ih v hv (level + 1)).starts.ne_nil) sp
    rw [List.cons_append, List.append_assoc, List.append_assoc, List.singleton_append]
    refine value_array hbefore depth ?_ (closeItems_append hclose rest)
    exact items_joined hsp hclose hparts (hfuel _) true rest
  | @object depth ms hkeys h ih =>
    obtain ⟨sp, gap, close, hsp, hgap, hclose, htext⟩ := htext.object level ms
    rw [htext]
    refine ⟨⟨'\x7b', _, rfl, by decide, by decide, by decide⟩, ?_⟩
    intro before rest hbefore _
    have hparts : List.Forall₂ (ReadsMember (value depth))
        (ms.map fun m => (m.1, text (level + 1) m.2)) ms := by
      rw [List.forall₂_map_left_iff, List.forall₂_same]
      exact fun m hm => ⟨rfl, ih m hm (level + 1)⟩
    have hmembers : Json.ofMembers ms = .object ms :=
      congrArg Json.object (Members.ofPairs_of_ascending hkeys)
    have hfuel := length_lt_joined
      ((ms.map fun m => (m.1, text (level + 1) m.2)).map (memberText gap)) (by
        intro t ht
        obtain ⟨m, -, rfl⟩ := List.mem_map.1 ht
        exact List.cons_ne_nil _ _) sp
    rw [List.length_map] at hfuel
    rw [List.cons_append, List.append_assoc, List.append_assoc, List.singleton_append, ← hmembers]
    refine value_object hbefore depth ?_ (closeMembers_append hclose rest)
    exact members_joined hsp hclose hgap hparts (hfuel _) true rest

/-! ### The pretty text -/

/-- The blanks before the bracket that closes a container: a new line if there is anything in it. -/
def closing {α : Type} (level : ℕ) (parts : List α) : List Char :=
  if parts.isEmpty then [] else newLine level

lemma isSpace_of_mem_closing {α : Type} {level : ℕ} {parts : List α} {c : Char}
    (hc : c ∈ closing level parts) : isSpace c = true := by
  unfold closing at hc
  split at hc
  · cases hc
  · exact isSpace_of_mem_newLine hc

lemma prettyItems_eq (level : ℕ) (vs : List Json) :
    prettyItems level vs = joined (newLine level) true (vs.map (prettyChars level)) := by
  apply eq_joined
  · rw [prettyItems]
  · exact fun v => by rw [prettyItems]
  · exact fun v w vs => by rw [prettyItems, List.append_assoc]

lemma prettyMembers_eq (level : ℕ) (ms : List (String × Json)) :
    prettyMembers level ms = joined (newLine level) true
      ((ms.map fun m => (m.1, prettyChars level m.2)).map (memberText [' '])) := by
  rw [List.map_map]
  apply eq_joined
  · rw [prettyMembers]
  · exact fun m => by simp [prettyMembers, memberText]
  · exact fun m m' ms => by simp [prettyMembers, memberText]

/-- The pretty text of an array, its items on lines of their own. -/
lemma prettyChars_array (level : ℕ) (vs : List Json) :
    prettyChars level (.array vs) = '[' :: (joined (newLine (level + 1)) true
      (vs.map (prettyChars (level + 1))) ++ (closing level vs ++ [']'])) := by
  cases vs with
  | nil => rfl
  | cons v vs => simp [prettyChars, prettyItems_eq, closing]

/-- The pretty text of an object, its members on lines of their own. -/
lemma prettyChars_object (level : ℕ) (ms : List (String × Json)) :
    prettyChars level (.object ms) = '\x7b' :: (joined (newLine (level + 1)) true
      ((ms.map fun m => (m.1, prettyChars (level + 1) m.2)).map (memberText [' '])) ++
        (closing level ms ++ ['\x7d'])) := by
  cases ms with
  | nil => rfl
  | cons m ms => simp [prettyChars, prettyMembers_eq, closing]

/-- The pretty text puts blanks between the parts of a container. -/
lemma laysOut_prettyChars : LaysOut prettyChars where
  null level := by rw [prettyChars, compactChars]
  bool level b := by cases b <;> rw [prettyChars, compactChars]
  number level n := by rw [prettyChars, compactChars]
  string level s := by rw [prettyChars, compactChars]
  array level vs := ⟨newLine (level + 1), closing level vs, fun _ => isSpace_of_mem_newLine,
    fun _ => isSpace_of_mem_closing, prettyChars_array level vs⟩
  object level ms := ⟨newLine (level + 1), [' '], closing level ms, fun _ => isSpace_of_mem_newLine,
    List.all_eq_true.1 rfl, fun _ => isSpace_of_mem_closing, prettyChars_object level ms⟩

/-- **A value is read back from its pretty text** if it is nested no deeper than the reader goes. -/
theorem read_pretty {v : Json} (h : Plain maxDepth v) : read v.pretty = .ok v := by
  have hread := (h.reads laysOut_prettyChars 0).read [] [] nofun (by decide)
  rw [List.nil_append, List.append_nil] at hread
  rw [read, readAll, pretty, String.toList_ofList, hread]
  rfl

/-! ### Values that are nested too deep -/

/-- An empty array in an array, in an array and so on. -/
def nested : ℕ → Json
  | 0 => .array []
  | n + 1 => .array [nested n]

/-- The text of a nested array starts with a bracket. -/
lemma exists_text_nested {text : ℕ → Json → List Char} (htext : LaysOut text) (level n : ℕ) :
    ∃ cs, text level (nested n) = '[' :: cs := by
  cases n with
  | zero =>
    obtain ⟨sp, close, -, -, hcs⟩ := htext.array level []
    exact ⟨_, hcs⟩
  | succ n =>
    obtain ⟨sp, close, -, -, hcs⟩ := htext.array level [nested n]
    exact ⟨_, hcs⟩

/-- Arrays that are nested deeper than a reader goes are not read. -/
lemma value_nested {text : ℕ → Json → List Char} (htext : LaysOut text) {depth n : ℕ}
    (h : depth ≤ n) (level : ℕ) (sp : List Char) (hsp : ∀ c ∈ sp, isSpace c = true)
    (rest : List Char) :
    value depth (sp ++ (text level (nested n) ++ rest)) = .error .malformed := by
  induction depth generalizing n level sp rest with
  | zero =>
    obtain ⟨cs, hcs⟩ := exists_text_nested htext level n
    rw [hcs, List.cons_append, value, skipSpace_append hsp (by decide)]
    rfl
  | succ depth ih =>
    obtain ⟨n, rfl⟩ := Nat.exists_eq_add_one.2 (Nat.zero_lt_of_lt h)
    obtain ⟨inside, close, hinside, hclose, harray⟩ := htext.array level [nested n]
    obtain ⟨cs, hcs⟩ := exists_text_nested htext (level + 1) n
    have hstarts : StartsItem (text (level + 1) (nested n)) :=
      ⟨'[', cs, hcs, by decide, by decide, by decide⟩
    have hinner := ih (Nat.le_of_succ_le_succ h) (level + 1) [] nofun
    have hnext : ∀ more, nextItem true (inside ++ (text (level + 1) (nested n) ++ more))
        = .ok (some (text (level + 1) (nested n) ++ more)) := nextItem_first hinside hstarts
    rw [nested, harray, List.map_singleton, joined, joined_nil, List.cons_append, value,
      skipSpace_append hsp (by decide)]
    simp only [List.nil_append, List.append_assoc, List.append_nil] at hinner hnext ⊢
    rw [items, hnext]
    simp [hinner, bind, Except.bind]

/-- A text that is nested one container deeper than a reader goes is not read. -/
theorem read_pretty_nested : read (nested maxDepth).pretty = .error .malformed := by
  have hread := value_nested laysOut_prettyChars (Nat.le_refl maxDepth) 0 [] nofun []
  rw [List.nil_append, List.append_nil] at hread
  rw [read, readAll, pretty, String.toList_ofList, hread]
  rfl

end Json

end Tidemark
