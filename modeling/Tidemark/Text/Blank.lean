/-!
# Blank characters and trimming

Texts that come from outside (column names, counts, permission descriptors, response bodies) are
trimmed of blanks before they are judged.  A blank is a character with the Unicode property
`White_Space`; the zero width space, the byte order mark and the control characters `U+001C` to
`U+001F` do not have it.
-/

namespace Tidemark.Text

/-- The ranges of code points with the Unicode property `White_Space`. -/
def blankRanges : List (Nat × Nat) :=
  [(0x09, 0x0D), (0x20, 0x20), (0x85, 0x85), (0xA0, 0xA0), (0x1680, 0x1680), (0x2000, 0x200A),
    (0x2028, 0x2029), (0x202F, 0x202F), (0x205F, 0x205F), (0x3000, 0x3000)]

/-- A character is blank when its code point lies in one of the `White_Space` ranges. -/
def isBlank (c : Char) : Bool :=
  blankRanges.any fun r => r.1 ≤ c.toNat && c.toNat ≤ r.2

/-- The characters from the first one on that is not blank. -/
def trimStart (cs : List Char) : List Char :=
  cs.dropWhile isBlank

/-- The characters up to the last one that is not blank. -/
def trimEnd (cs : List Char) : List Char :=
  (cs.reverse.dropWhile isBlank).reverse

/-- The characters without the blanks at either end. -/
def trim (cs : List Char) : List Char :=
  trimEnd (trimStart cs)

/-- A text without the blanks at its end. -/
def trimmedEnd (s : String) : String :=
  String.ofList (trimEnd s.toList)

/-- A text is blank when it holds nothing but blanks. -/
def isBlankText (s : String) : Bool :=
  s.toList.all isBlank

/-! ### What trimming leaves -/

theorem trimStart_append_of_all_blank {bs : List Char} (h : ∀ c ∈ bs, isBlank c = true)
    (cs : List Char) : trimStart (bs ++ cs) = trimStart cs := by
  induction bs with
  | nil => rfl
  | cons b bs ih =>
    have hb : isBlank b = true := h b (by simp)
    simp only [trimStart, List.cons_append, List.dropWhile_cons, hb, if_true]
    exact ih fun c hc => h c (by simp [hc])

theorem trimStart_of_all_blank {bs : List Char} (h : ∀ c ∈ bs, isBlank c = true) :
    trimStart bs = [] := by
  simpa [trimStart] using trimStart_append_of_all_blank h []

theorem trimStart_of_head_not_blank {c : Char} (h : isBlank c = false) (cs : List Char) :
    trimStart (c :: cs) = c :: cs := by
  simp [trimStart, h]

theorem trimEnd_append_of_all_blank {bs : List Char} (h : ∀ c ∈ bs, isBlank c = true)
    (cs : List Char) : trimEnd (cs ++ bs) = trimEnd cs := by
  have hr : ∀ c ∈ bs.reverse, isBlank c = true := fun c hc => h c (List.mem_reverse.1 hc)
  have := trimStart_append_of_all_blank hr cs.reverse
  simp only [trimStart] at this
  simp [trimEnd, List.reverse_append, this]

end Tidemark.Text
