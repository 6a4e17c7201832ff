/-!
# Text inside query literals

Column names and values are put between single quotes in a pipeline query.  Quotes of both kinds
and parentheses are taken out of them, so that a value cannot close its literal.
-/

namespace Tidemark.Query

/-- The characters that a literal must not hold. -/
def isForbidden (c : Char) : Bool :=
  c = '\'' || c = '"' || c = '(' || c = ')'

/-- The characters of a text that a literal may hold. -/
def sanitizeChars (cs : List Char) : List Char :=
  cs.filter fun c => !isForbidden c

/-- A text without the characters that a literal must not hold. -/
def sanitize (s : String) : String :=
  String.ofList (sanitizeChars s.toList)

theorem sanitizeChars_idem (cs : List Char) :
    sanitizeChars (sanitizeChars cs) = sanitizeChars cs := by
  simp [sanitizeChars, List.filter_filter]

@[simp] theorem sanitize_sanitize (s : String) : sanitize (sanitize s) = sanitize s := by
  simp [sanitize, sanitizeChars_idem]

theorem not_isForbidden_of_mem_sanitizeChars {c : Char} {cs : List Char}
    (h : c ∈ sanitizeChars cs) : isForbidden c = false := by
  simpa [sanitizeChars] using (List.mem_filter.1 h).2

end Tidemark.Query
