import Tidemark.Proofs.Result
import Tidemark.Proofs.Url.EndSlash

/-!
# Reading texts that begin alike

A text is read as a URL in steps: what does not count is dropped (`clean`), the scheme is split off,
the fragment and the query are cut off, and the rest is the stem.  For two texts that begin alike
and differ at their ends it is followed through these steps what becomes of the ends.  If there is a
query or a fragment the ends belong to it, and the stems are equal (`front_append_of_not_uncut`).
Otherwise they belong to the stem.
-/

namespace Tidemark.Url

/-! ### The scheme -/

/-- A scheme is a name that begins with a letter, with a colon behind it. -/
lemma splitScheme_eq_some_iff {cs rest : List Char} {scheme : String} :
    splitScheme cs = some (scheme, rest) ↔ ∃ name, cs = name ++ ':' :: rest ∧
      (∃ c ∈ name.head?, isLetter c = true) ∧ (∀ c ∈ name, isSchemeChar c = true) ∧
      scheme = String.ofList (name.map Char.toLower) := by
  constructor
  · intro h
    cases cs with
    | nil => cases h
    | cons c cs =>
      simp only [splitScheme] at h
      split at h
      · next hc =>
        split at h
        · next rest' hrest =>
          obtain ⟨rfl, rfl⟩ := Prod.mk.inj (Option.some.inj h)
          refine ⟨(c :: cs).takeWhile isSchemeChar, ?_, ⟨c, ?_, hc⟩, ?_, rfl⟩
          · rw [← hrest, List.takeWhile_append_dropWhile]
          · have hscheme : isSchemeChar c = true := by simp [isSchemeChar, hc]
            rw [List.takeWhile_cons, if_pos hscheme]
            rfl
          · exact fun d hd => List.mem_takeWhile_imp hd
        · cases h
      · cases h
  · rintro ⟨name, rfl, ⟨c, hc, hletter⟩, hname, rfl⟩
    obtain ⟨name, rfl⟩ := List.head?_eq_some_iff.1 hc
    have hcolon : isSchemeChar ':' = false := by decide
    rw [List.cons_append, splitScheme, if_pos hletter, ← List.cons_append,
      List.dropWhile_append_of_pos hname, List.takeWhile_append_of_pos hname,
      List.dropWhile_cons, List.takeWhile_cons, hcolon]
    simp

/-- The scheme of a text does not depend on how the text ends, and slashes at the end follow it. -/
lemma splitScheme_append {p ds rest : List Char} {scheme : String} (hds : ∀ d ∈ ds, d = '/')
    (h : splitScheme (p ++ ds) = some (scheme, rest)) :
    ∃ q, rest = q ++ ds ∧ q <:+ p ∧
      ∀ ds', splitScheme (p ++ ds') = some (scheme, q ++ ds') := by
  obtain ⟨name, hcs, hletter, hname, hscheme⟩ := splitScheme_eq_some_iff.1 h
  have hcolon : ':' ∉ ds := fun hmem => absurd (hds ':' hmem) (by decide)
  rcases List.append_eq_append_iff.1 hcs with ⟨a, -, hend⟩ | ⟨a, hp, hend⟩
  · exact absurd (hend ▸ List.mem_append_right a List.mem_cons_self) hcolon
  · cases a with
    | nil =>
      rw [List.nil_append] at hend
      exact absurd (hend ▸ List.mem_cons_self) hcolon
    | cons c q =>
      obtain ⟨rfl, rfl⟩ := List.cons.inj hend
      have hsuffix : q <:+ p := by
        rw [hp]
        exact (List.suffix_cons ':' q).trans (List.suffix_append name _)
      refine ⟨q, rfl, hsuffix,
        fun ds' => splitScheme_eq_some_iff.2 ⟨name, ?_, hletter, hname, hscheme⟩⟩
      rw [hp, List.append_assoc, List.cons_append]

/-! ### Query and fragment -/

/-- The text before the query and the fragment. -/
def front (cs : List Char) : List Char :=
  (cutAt '?' (cutAt '#' cs).1).1

/-- The text of the query, if there is one. -/
def query? (cs : List Char) : Option (List Char) :=
  (cutAt '?' (cutAt '#' cs).1).2

/-- The text of the fragment, if there is one. -/
def fragment? (cs : List Char) : Option (List Char) :=
  (cutAt '#' cs).2

/-- Whether nothing follows the text before the query and the fragment. -/
def atEnd (cs : List Char) : Bool :=
  (fragment? cs).isNone && (query? cs).isNone

/-- Nothing is cut off where a character does not occur. -/
lemma cutAt_of_not_mem {x : Char} {cs : List Char} (h : x ∉ cs) : cutAt x cs = (cs, none) := by
  have hnil : cs.dropWhile (· ≠ x) = [] := by
    rw [List.dropWhile_eq_nil_iff]
    intro c hc
    exact decide_eq_true (ne_of_mem_of_not_mem hc h)
  rw [cutAt, hnil]

/-- Where a character occurs, the text before it does not depend on how the text ends. -/
lemma cutAt_append_of_mem {x : Char} {p : List Char} (h : x ∈ p) :
    ∃ a b, ∀ ds, cutAt x (p ++ ds) = (a, some (b ++ ds)) := by
  obtain ⟨a, b, rfl, ha⟩ := List.eq_append_cons_of_mem h
  refine ⟨a, b, fun ds => ?_⟩
  have hne : ∀ c ∈ a, decide (c ≠ x) = true := fun c hc =>
    decide_eq_true (ne_of_mem_of_not_mem hc ha)
  rw [List.append_assoc, cutAt, List.dropWhile_append_of_pos hne, List.takeWhile_append_of_pos hne]
  simp

/-- A text in which nothing begins a query or a fragment. -/
def Uncut (cs : List Char) : Prop :=
  '#' ∉ cs ∧ '?' ∉ cs

lemma Uncut.append {cs ds : List Char} (hcs : Uncut cs) (hds : Uncut ds) : Uncut (cs ++ ds) := by
  simp only [Uncut, List.mem_append, not_or] at hcs hds ⊢
  exact ⟨⟨hcs.1, hds.1⟩, hcs.2, hds.2⟩

/-- Without a query and a fragment a text is its stem. -/
lemma Uncut.cut_eq {cs : List Char} (h : Uncut cs) :
    front cs = cs ∧ query? cs = none ∧ fragment? cs = none := by
  rw [front, query?, fragment?, cutAt_of_not_mem h.1, cutAt_of_not_mem h.2]
  exact ⟨rfl, rfl, rfl⟩

/-- Without a query and a fragment nothing in a text begins one. -/
lemma uncut_of_none {cs : List Char} (hquery : query? cs = none) (hfragment : fragment? cs = none) :
    Uncut cs := by
  have hhash : '#' ∉ cs := by
    intro hmem
    obtain ⟨a, b, hcut⟩ := cutAt_append_of_mem hmem
    rw [fragment?, ← List.append_nil cs, hcut] at hfragment
    cases hfragment
  refine ⟨hhash, fun hmem => ?_⟩
  obtain ⟨a, b, hcut⟩ := cutAt_append_of_mem hmem
  rw [query?, cutAt_of_not_mem hhash, ← List.append_nil cs, hcut] at hquery
  cases hquery

/-- In a text with a query or a fragment the stem does not depend on how the text ends, and is not
the end of the text. -/
lemma front_append_of_not_uncut {p : List Char} (h : ¬ Uncut p) : ∃ a, ∀ ds, Uncut ds →
    front (p ++ ds) = a ∧ atEnd (p ++ ds) = false := by
  by_cases hhash : '#' ∈ p
  · obtain ⟨a, b, hcut⟩ := cutAt_append_of_mem hhash
    refine ⟨(cutAt '?' a).1, fun ds _ => ?_⟩
    rw [front, atEnd, fragment?, hcut]
    exact ⟨rfl, rfl⟩
  · have hmark : '?' ∈ p := by
      by_contra hmark
      exact h ⟨hhash, hmark⟩
    obtain ⟨a, b, hcut⟩ := cutAt_append_of_mem hmark
    refine ⟨a, fun ds hds => ?_⟩
    have hnone : '#' ∉ p ++ ds := by simp [hhash, hds.1]
    rw [front, atEnd, query?, cutAt_of_not_mem hnone, hcut]
    exact ⟨rfl, Bool.and_false _⟩

/-! ### Whole texts -/

/-- The stem of a text after its scheme. -/
def readStem (scheme : String) (final : Bool) (cs : List Char) : Except Fault Stem :=
  if isFile scheme then readFileStem scheme cs
  else if isSpecial scheme then readSpecial scheme final cs
  else readPlain scheme final cs

/-- A stem with the query and the fragment of the text after its scheme. -/
def complete (scheme : String) (cs : List Char) (stem : Stem) : Url :=
  let querySet := if isSpecial scheme then Percent.inSpecialQuery else Percent.inQuery
  { stem with
    query := (query? cs).map fun q => String.ofList (Percent.encode querySet q)
    fragment := (fragment? cs).map fun f => String.ofList (Percent.encode Percent.inFragment f) }

section Whole

variable {scheme : String} {final : Bool} {cs : List Char} {stem : Stem}

/-- A stem of files has the scheme from which it is read. -/
lemma scheme_readFileStem (h : readFileStem scheme cs = .ok stem) : stem.scheme = scheme := by
  unfold readFileStem at h
  split at h
  · split at h
    · simp only at h
      split at h
      · cases h
        rfl
      · obtain ⟨host, -, hstem⟩ := exists_of_bind_eq_ok h
        split at hstem
        · cases hstem
          rfl
        · cases hstem
          rfl
    · cases h
      rfl
  · cases h
    rfl

/-- A stem without rules for its host has the scheme from which it is read. -/
lemma scheme_readPlain (h : readPlain scheme final cs = .ok stem) : stem.scheme = scheme := by
  unfold readPlain at h
  split at h
  · obtain ⟨r, -, hstem⟩ := exists_of_bind_eq_ok h
    cases hstem
    rfl
  · cases h
    rfl
  · cases h
    rfl

/-- A stem has the scheme from which it is read. -/
lemma scheme_readStem (h : readStem scheme final cs = .ok stem) : stem.scheme = scheme := by
  unfold readStem at h
  split at h
  · exact scheme_readFileStem h
  · split at h
    · next hspecial =>
      obtain ⟨a, rest, -, rfl⟩ := (readSpecial_eq_ok_iff hspecial).1 h
      rfl
    · exact scheme_readPlain h

/-- A text with a scheme is read as its stem, its query and its fragment. -/
lemma read_of_splitScheme {text : String}
    (h : splitScheme (clean text.toList) = some (scheme, cs)) :
    read text = readStem scheme (atEnd cs) (front cs) >>=
      fun stem => .ok (complete scheme cs stem) := by
  unfold read readStem complete atEnd
  rw [h]
  simp only
  cases isFile scheme with
  | true => rfl
  | false => cases isSpecial scheme <;> rfl

/-- A URL has the scheme of its text. -/
lemma exists_of_read_eq_ok {text : String} {u : Url} (h : read text = .ok u) :
    ∃ cs stem, splitScheme (clean text.toList) = some (u.scheme, cs) ∧
      readStem u.scheme (atEnd cs) (front cs) = .ok stem ∧ u = complete u.scheme cs stem := by
  cases hsplit : splitScheme (clean text.toList) with
  | none =>
    unfold read at h
    rw [hsplit] at h
    cases h
  | some p =>
    rcases p with ⟨scheme, cs⟩
    rw [read_of_splitScheme hsplit] at h
    obtain ⟨stem, hstem, hu⟩ := exists_of_bind_eq_ok h
    obtain rfl := Except.ok.inj hu
    have hscheme : stem.scheme = scheme := scheme_readStem hstem
    rw [show (complete scheme cs stem).scheme = scheme from hscheme]
    exact ⟨cs, stem, rfl, hstem, rfl⟩

end Whole

end Tidemark.Url
