import Mathlib.Tactic.Common
import Tidemark.Json.Decode
import Tidemark.Proofs.Json.Quoted
import Tidemark.Proofs.Result

/-!
# Reading the members of a record one by one

A record is read member by member, in whatever order they stand.  `recordMembers_field` is one step
of that reading: a field that was not seen before is read into the record, and reading goes on after
it.  The other lemmas say what each part of a step does with a text in which blanks stand only where
the printers put them, so that the compact and the pretty text of a record are read in the same way.
What every field keeps holds of every record that is read (`Keeps.record`), in whatever form it is
written.
-/

namespace Tidemark.Json.Decoder

open Scan

variable {σ : Type}

/-- Blanks are passed over up to a character that is none. -/
lemma skipSpace_append {sp : List Char} (hsp : ∀ c ∈ sp, isSpace c = true) {x : Char}
    (hx : isSpace x = false) (cs : List Char) : skipSpace (sp ++ x :: cs) = x :: cs := by
  induction sp with
  | nil => simp [skipSpace, hx]
  | cons c sp ih =>
    have hc : isSpace c = true := hsp c (by simp)
    have htail := ih fun d hd => hsp d (by simp [hd])
    rw [skipSpace] at htail ⊢
    rw [List.cons_append, List.dropWhile_cons, if_pos hc, htail]

/-- A text that does not start with a blank is left as it is. -/
lemma skipSpace_cons {x : Char} (hx : isSpace x = false) (cs : List Char) :
    skipSpace (x :: cs) = x :: cs := by
  rw [skipSpace, List.dropWhile_cons, if_neg (by simp [hx])]

/-- A line break with its indentation is blank. -/
lemma isSpace_of_mem_newLine {level : Nat} {c : Char} (hc : c ∈ newLine level) :
    isSpace c = true := by
  rcases List.mem_cons.1 hc with rfl | hc
  · decide
  · rw [List.eq_of_mem_replicate hc]
    decide

/-- The first key of an object starts at the first quotation mark. -/
lemma nextKey_first {sp : List Char} (hsp : ∀ c ∈ sp, isSpace c = true) (cs : List Char) :
    nextKey true (sp ++ '"' :: cs) = .ok (some cs) := by
  rw [nextKey, skipSpace_append hsp (by decide)]
  rfl

/-- A later key of an object starts at the first quotation mark after a comma. -/
lemma nextKey_later {sp : List Char} (hsp : ∀ c ∈ sp, isSpace c = true) (cs : List Char) :
    nextKey false (',' :: (sp ++ '"' :: cs)) = .ok (some cs) := by
  have hquote : skipSpace (sp ++ '"' :: cs) = '"' :: cs := skipSpace_append hsp (by decide) cs
  rw [nextKey, skipSpace_cons (by decide)]
  simp [hquote]

/-- The closing brace ends the keys. -/
lemma nextKey_close {sp : List Char} (hsp : ∀ c ∈ sp, isSpace c = true) (first : Bool)
    (cs : List Char) : nextKey first (sp ++ '\x7d' :: cs) = .ok none := by
  rw [nextKey, skipSpace_append hsp (by decide)]
  rfl

/-- The closing brace ends the object. -/
lemma closeMembers_append {sp : List Char} (hsp : ∀ c ∈ sp, isSpace c = true) (cs : List Char) :
    closeMembers (sp ++ '\x7d' :: cs) = .ok cs := by
  rw [closeMembers, skipSpace_append hsp (by decide)]
  rfl

/-- A quoted key is read back. -/
lemma key_quoted (k : String) (rest : List Char) :
    key (k.toList.flatMap escapeChar ++ '"' :: rest) = .ok (k, rest) := by
  rw [key, stringBody_quoted]
  simp [Except.map]

/-- The colon after a key. -/
lemma colon_cons (cs : List Char) : colon (':' :: cs) = .ok cs := by
  rw [colon, skipSpace_cons (by decide)]
  rfl

/-- A quoted string that the rule accepts is read as the value that the rule gives. -/
lemma stringWith_quoted {α : Type} {wanted : String} {rule : String → Except String α} {s : String}
    {v : α} (hv : rule s = .ok v) {sp : List Char} (hsp : ∀ c ∈ sp, isSpace c = true) (depth : Nat)
    (rest : List Char) :
    stringWith wanted rule depth (sp ++ (quoteChars s.toList ++ rest)) = .ok (v, rest) := by
  rw [quoteChars_append, stringWith, skipSpace_append hsp (by decide)]
  simp [stringBody_quoted, hv, bind, Except.bind, pure, Except.pure]

/-- One step of reading a record: a field that was not seen before is read into the record. -/
lemma recordMembers_field {fields : List (FieldDecoder σ)} {depth fuel : Nat} {first : Bool}
    {seen : List String} {s t : σ} {f : FieldDecoder σ} {k : String}
    {cs cs₁ cs₂ cs₃ cs₄ : List Char} (hnext : nextKey first cs = .ok (some cs₁))
    (hkey : key cs₁ = .ok (k, cs₂)) (hfind : fields.find? (·.name = k) = some f)
    (hseen : k ∉ seen) (hcolon : colon cs₂ = .ok cs₃)
    (hread : f.read s depth cs₃ = .ok (t, cs₄)) :
    recordMembers fields depth (fuel + 1) first seen s cs
      = recordMembers fields depth fuel false (k :: seen) t cs₄ := by
  rw [recordMembers]
  simp [hnext, hkey, hfind, hseen, hcolon, hread, bind, Except.bind]

/-- The end of a record: every field that must be present was seen. -/
lemma recordMembers_close {fields : List (FieldDecoder σ)} {depth fuel : Nat} {first : Bool}
    {seen : List String} {s : σ} {cs : List Char} (hnext : nextKey first cs = .ok none)
    (hmissing : missing? fields seen = none) :
    recordMembers fields depth (fuel + 1) first seen s cs = .ok (s, cs) := by
  rw [recordMembers]
  simp [hnext, hmissing, bind, Except.bind, pure, Except.pure]

/-- A record that is written as an object is read by its members. -/
lemma record_object {shape : String} {fields : List (FieldDecoder σ)} {start s : σ} {depth : Nat}
    {cs cs₁ cs₂ : List Char}
    (hmembers : recordMembers fields depth (cs.length + 1) true [] start cs = .ok (s, cs₁))
    (hclose : closeMembers cs₁ = .ok cs₂) :
    record shape fields start (depth + 1) ('\x7b' :: cs) = .ok (s, cs₂) := by
  rw [record, skipSpace_cons (by decide)]
  simp [hmembers, hclose, bind, Except.bind, pure, Except.pure]

/-! ### What every field keeps -/

/-- Every field keeps a property of the record that it is read into. -/
def Keeps (fields : List (FieldDecoder σ)) (P : σ → Prop) : Prop :=
  ∀ f ∈ fields, ∀ {s t depth cs rest}, P s → f.read s depth cs = .ok (t, rest) → P t

/-- Members read one after another keep what every field keeps; members that are no field change
nothing. -/
lemma Keeps.recordMembers {fields : List (FieldDecoder σ)} {P : σ → Prop} (h : Keeps fields P)
    {depth fuel : Nat} {first : Bool} {seen : List String} {s t : σ} {cs rest : List Char}
    (hs : P s) (hread : recordMembers fields depth fuel first seen s cs = .ok (t, rest)) : P t := by
  induction fuel generalizing first seen s cs with
  | zero => cases hread
  | succ fuel ih =>
    rw [Decoder.recordMembers] at hread
    obtain ⟨next, -, hread⟩ := exists_of_bind_eq_ok hread
    cases next with
    | none =>
      dsimp only at hread
      split at hread
      · cases hread
      · cases hread
        exact hs
    | some cs₁ =>
      obtain ⟨⟨k, cs₂⟩, -, hread⟩ := exists_of_bind_eq_ok hread
      dsimp only at hread
      split at hread
      next =>
        obtain ⟨cs₃, -, hread⟩ := exists_of_bind_eq_ok hread
        obtain ⟨⟨_, cs₄⟩, -, hread⟩ := exists_of_bind_eq_ok hread
        exact ih hs hread
      next f hfind =>
        split at hread
        · cases hread
        · obtain ⟨cs₃, -, hread⟩ := exists_of_bind_eq_ok hread
          obtain ⟨⟨u, cs₄⟩, hfield, hread⟩ := exists_of_bind_eq_ok hread
          exact ih (h f (List.mem_of_find?_eq_some hfind) hs hfield) hread

/-- Items read one after another keep what every field keeps. -/
lemma Keeps.recordItems {shape : String} {size depth : Nat} {fields : List (FieldDecoder σ)}
    {P : σ → Prop} (h : Keeps fields P) {count : Nat} {s t : σ} {cs rest : List Char} (hs : P s)
    (hread : recordItems shape size depth fields count s cs = .ok (t, rest)) : P t := by
  induction fields generalizing count s cs with
  | nil =>
    cases hread
    exact hs
  | cons f fields ih =>
    have htail : Keeps fields P := fun g hg => h g (List.mem_cons_of_mem f hg)
    rw [Decoder.recordItems] at hread
    obtain ⟨next, -, hread⟩ := exists_of_bind_eq_ok hread
    cases next with
    | none =>
      dsimp only at hread
      split at hread
      · exact ih htail hs hread
      · cases hread
    | some cs₁ =>
      obtain ⟨⟨u, cs₂⟩, hfield, hread⟩ := exists_of_bind_eq_ok hread
      exact ih htail (h f List.mem_cons_self hs hfield) hread

/-- Something of another kind is never read. -/
lemma wrongType_ne_ok {α : Type} (wanted : String) (cs : List Char) (a : α) :
    wrongType wanted cs ≠ .ok a := by
  intro h
  unfold wrongType at h
  -- the value that is found is read as far as the message needs, and then refused
  split at h
  · obtain ⟨_, -, h⟩ := exists_of_bind_eq_ok h
    cases h
  · obtain ⟨_, -, h⟩ := exists_of_bind_eq_ok h
    cases h
  · obtain ⟨_, -, h⟩ := exists_of_bind_eq_ok h
    cases h
  · obtain ⟨_, -, h⟩ := exists_of_bind_eq_ok h
    cases h
  · cases h
  · cases h
  · obtain ⟨_, -, h⟩ := exists_of_bind_eq_ok h
    cases h

/-- A record that is read has what the initial record has and every field keeps. -/
lemma Keeps.record {shape : String} {fields : List (FieldDecoder σ)} {P : σ → Prop}
    (h : Keeps fields P) {start t : σ} {depth : Nat} {cs rest : List Char} (hstart : P start)
    (hread : record shape fields start depth cs = .ok (t, rest)) : P t := by
  unfold Decoder.record at hread
  split at hread
  · cases depth with
    | zero => cases hread
    | succ depth =>
      obtain ⟨⟨u, cs₁⟩, hmembers, hread⟩ := exists_of_bind_eq_ok hread
      obtain ⟨cs₂, -, hread⟩ := exists_of_bind_eq_ok hread
      cases hread
      exact h.recordMembers hstart hmembers
  · cases depth with
    | zero => cases hread
    | succ depth =>
      obtain ⟨⟨u, cs₁⟩, hitems, hread⟩ := exists_of_bind_eq_ok hread
      obtain ⟨cs₂, -, hread⟩ := exists_of_bind_eq_ok hread
      cases hread
      exact h.recordItems hstart hitems
  · exact absurd hread (wrongType_ne_ok _ _ _)

/-- A string that is read was accepted by the rule for its content. -/
lemma exists_of_stringWith_eq_ok {α : Type} {wanted : String} {rule : String → Except String α}
    {depth : Nat} {cs rest : List Char} {v : α}
    (h : stringWith wanted rule depth cs = .ok (v, rest)) : ∃ s, rule s = .ok v := by
  unfold stringWith at h
  split at h
  · obtain ⟨⟨s, cs₁⟩, -, h⟩ := exists_of_bind_eq_ok h
    dsimp only at h
    split at h
    next hrule =>
      cases h
      exact ⟨_, hrule⟩
    next => cases h
  · exact absurd h (wrongType_ne_ok _ _ _)

/-- A whole text that is read holds a value that the decoder reads. -/
lemma exists_of_readAll_eq_ok {α : Type} {d : Decoder α} {text : String} {v : α}
    (h : readAll d text = .ok v) : ∃ rest, d maxDepth text.toList = .ok (v, rest) := by
  unfold readAll at h
  obtain ⟨⟨u, rest⟩, hread, h⟩ := exists_of_bind_eq_ok h
  dsimp only at h
  split at h
  · cases h
    exact ⟨rest, hread⟩
  · cases h

end Tidemark.Json.Decoder
