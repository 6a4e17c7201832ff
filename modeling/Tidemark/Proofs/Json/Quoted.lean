import Mathlib.Tactic.Common
import Tidemark.Json.Printer
import Tidemark.Json.Scan

/-!
# Strings survive their JSON text

`escapeChar` writes a character in one of four ways: as itself, as a one-letter escape, or, for the
other characters below the space, with four hexadecimal digits.  Whatever follows, the scan of a
string takes exactly one written character off the front (`stringBody_escapeChar`), and so a quoted
string is read back up to its closing quotation mark (`stringBody_quoted`).
-/

namespace Tidemark.Json.Scan

/-- A hexadecimal digit is read as its value. -/
lemma hexValue?_hexDigit {d : Nat} (hd : d < 16) : hexValue? (hexDigit d) = some d := by
  have h : ∀ d < 16, hexValue? (hexDigit d) = some d := by decide
  exact h d hd

/-- The last two of four hexadecimal digits carry a number below `0x100`. -/
lemma hexWord?_hexDigits {n : Nat} (hn : n < 0x20) :
    hexWord? '0' '0' (hexDigit (n / 16)) (hexDigit (n % 16)) = some n := by
  have hhigh : hexValue? (hexDigit (n / 16)) = some (n / 16) := hexValue?_hexDigit (by omega)
  have hlow : hexValue? (hexDigit (n % 16)) = some (n % 16) := hexValue?_hexDigit (by omega)
  have hzero : hexValue? '0' = some 0 := by decide
  have hsum : n / 16 * 16 + n % 16 = n := by omega
  simp [hexWord?, hhigh, hlow, hzero, hsum]

/-- A unit below the space is a character of its own. -/
lemma ofNat?_of_lt_space {n : Nat} (hn : n < 0x20) :
    Unit16.ofNat? n = some (.single (Char.ofNat n)) := by
  have hhigh : isHighUnit n = false := by
    simp [isHighUnit]
    omega
  have hlow : isLowUnit n = false := by
    simp [isLowUnit]
    omega
  simp [Unit16.ofNat?, hhigh, hlow]

/-- A character that needs no escape is scanned as itself. -/
lemma stringBody_plain {c : Char} (hquote : c ≠ '"') (hslash : c ≠ '\\') (hspace : ¬ c.toNat < 0x20)
    (cs : List Char) :
    stringBody (c :: cs) = (stringBody cs).map fun r => (c :: r.1, r.2) := by
  rw [stringBody.eq_def]
  split
  · next h => cases h
  · next h => exact absurd (List.cons.inj h).1 hquote
  · next h => exact absurd (List.cons.inj h).1 hslash
  · next h => exact absurd (List.cons.inj h).1 hslash
  · next d ds h =>
    obtain ⟨rfl, rfl⟩ := List.cons.inj h
    simp [hspace, hslash]

/-- A character with a one-letter escape is scanned back from it. -/
lemma stringBody_short {x c : Char} (hu : x ≠ 'u') (h : shortEscape? x = some c) (cs : List Char) :
    stringBody ('\\' :: x :: cs) = (stringBody cs).map fun r => (c :: r.1, r.2) := by
  rw [stringBody.eq_def]
  split
  · next h => cases h
  · next h => exact absurd (List.cons.inj h).1 (by decide)
  · next h =>
    obtain ⟨-, htail⟩ := List.cons.inj h
    exact absurd (List.cons.inj htail).1 hu
  · next h' =>
    obtain ⟨-, htail⟩ := List.cons.inj h'
    obtain ⟨rfl, rfl⟩ := List.cons.inj htail
    rw [h]
  · next hno h' =>
    obtain ⟨rfl, rfl⟩ := List.cons.inj h'
    exact absurd rfl (hno x cs rfl)

/-- A control character is scanned back from its four hexadecimal digits. -/
lemma stringBody_control {c : Char} (hc : c.toNat < 0x20) (cs : List Char) :
    stringBody ('\\' :: 'u' :: '0' :: '0' :: hexDigit (c.toNat / 16)
        :: hexDigit (c.toNat % 16) :: cs)
      = (stringBody cs).map fun r => (c :: r.1, r.2) := by
  have hword : (hexWord? '0' '0' (hexDigit (c.toNat / 16)) (hexDigit (c.toNat % 16))).bind
      Unit16.ofNat? = some (.single c) := by
    rw [hexWord?_hexDigits hc, Option.bind_some, ofNat?_of_lt_space hc, Char.ofNat_toNat]
  simp only [stringBody, hword]

/-- The scan of a string takes exactly one written character off the front. -/
lemma stringBody_escapeChar (c : Char) (cs : List Char) :
    stringBody (escapeChar c ++ cs) = (stringBody cs).map fun r => (c :: r.1, r.2) := by
  unfold escapeChar
  split_ifs with hquote hslash hb ht hn hf hr hspace
  · exact stringBody_short (by decide) (by rw [hquote]; decide) cs
  · exact stringBody_short (by decide) (by rw [hslash]; decide) cs
  · exact stringBody_short (by decide) (by rw [hb]; decide) cs
  · exact stringBody_short (by decide) (by rw [ht]; decide) cs
  · exact stringBody_short (by decide) (by rw [hn]; decide) cs
  · exact stringBody_short (by decide) (by rw [hf]; decide) cs
  · exact stringBody_short (by decide) (by rw [hr]; decide) cs
  · exact stringBody_control hspace cs
  · exact stringBody_plain hquote hslash hspace cs

/-- A quoted text is read back, and what follows its closing quotation mark is left. -/
theorem stringBody_quoted (cs rest : List Char) :
    stringBody (cs.flatMap escapeChar ++ '"' :: rest) = .ok (cs, rest) := by
  induction cs with
  | nil => rw [List.flatMap_nil, List.nil_append, stringBody]
  | cons c cs ih =>
    rw [List.flatMap_cons, List.append_assoc, stringBody_escapeChar, ih]
    rfl

/-- The text of a string is its quotation mark, its written characters and another one. -/
lemma quoteChars_append (cs rest : List Char) :
    quoteChars cs ++ rest = '"' :: (cs.flatMap escapeChar ++ '"' :: rest) := by
  simp [quoteChars]

end Tidemark.Json.Scan
