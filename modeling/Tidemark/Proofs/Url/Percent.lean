import Mathlib.Tactic.Common
import Tidemark.Proofs.Text.Bytes
import Tidemark.Url.Percent

/-!
# Encoded characters

An encoded character is written with percent signs and hexadecimal digits alone
(`mem_encodeChar`), so that encoding puts no separator into a text.  Its bytes are the code of the
character (`bytesOf_eq`), and every byte is read back from its digits (`decode_encodeByte`).
-/

namespace Tidemark.Url.Percent

/-! ### Bytes -/

/-- The bytes of a character are its code. -/
lemma bytesOf_eq (c : Char) : bytesOf c = String.utf8EncodeChar c := by
  rw [bytesOf, Text.toList_toUTF8, String.toList_singleton, List.flatMap_singleton]

/-- Every character has bytes. -/
lemma bytesOf_ne_nil (c : Char) : bytesOf c ≠ [] := by
  rw [bytesOf_eq]
  exact String.utf8EncodeChar_ne_nil

/-! ### Writing -/

/-- An encoded character is written with percent signs and digits. -/
lemma mem_encodeChar {c d : Char} (h : c ∈ encodeChar d) : c = '%' ∨ ∃ n < 16, c = hexDigit n := by
  obtain ⟨b, -, hc⟩ := List.mem_flatMap.1 h
  have hb : b.toNat < 256 := b.toNat_lt
  simp only [encodeByte, List.mem_cons, List.not_mem_nil, or_false] at hc
  rcases hc with rfl | rfl | rfl
  · exact .inl rfl
  · exact .inr ⟨_, by omega, rfl⟩
  · exact .inr ⟨_, by omega, rfl⟩

/-- Of a text that is encoded something is left. -/
lemma encode_ne_nil {isEncoded : Char → Bool} {cs : List Char} (h : cs ≠ []) :
    encode isEncoded cs ≠ [] := by
  obtain ⟨c, cs, rfl⟩ := List.exists_cons_of_ne_nil h
  obtain ⟨b, bs, hbytes⟩ := List.exists_cons_of_ne_nil (bytesOf_ne_nil c)
  rw [encode, List.flatMap_cons]
  refine List.append_ne_nil_of_left_ne_nil ?_ _
  split
  · rw [encodeChar, hbytes]
    exact List.cons_ne_nil _ _
  · exact List.cons_ne_nil _ _

/-- Encoding puts no slashes into a text. -/
lemma not_mem_slash_encode {isEncoded : Char → Bool} {cs : List Char} (h : '/' ∉ cs) :
    '/' ∉ encode isEncoded cs := by
  have hdigit : ∀ n < 16, '/' ≠ hexDigit n := by decide
  intro hmem
  obtain ⟨c, hc, hmem⟩ := List.mem_flatMap.1 hmem
  split at hmem
  · rcases mem_encodeChar hmem with hpercent | ⟨n, hn, hslash⟩
    · exact absurd hpercent (by decide)
    · exact hdigit n hn hslash
  · obtain rfl := List.mem_singleton.1 hmem
    exact h hc

/-! ### Reading -/

/-- A hexadecimal digit is read as its value. -/
lemma hexValue?_hexDigit : ∀ n < 16, hexValue? (hexDigit n) = some n := by
  decide

/-- What is no percent sign stands for itself. -/
lemma decode_cons_of_ne {c : Char} (h : c ≠ '%') (cs : List Char) :
    decode (c :: cs) = bytesOf c ++ decode cs := by
  rw [decode]
  rintro a b cs ⟨⟩
  exact absurd rfl h

/-- A byte is read back. -/
lemma decode_encodeByte (b : UInt8) (cs : List Char) :
    decode (encodeByte b ++ cs) = b :: decode cs := by
  have hb : b.toNat < 256 := b.toNat_lt
  have hhigh := hexValue?_hexDigit (b.toNat / 16) (by omega)
  have hlow := hexValue?_hexDigit (b.toNat % 16) (by omega)
  have hvalue : 16 * (b.toNat / 16) + b.toNat % 16 = b.toNat := Nat.div_add_mod _ _
  simp [encodeByte, decode, hhigh, hlow, hvalue]

/-- Bytes are read back. -/
lemma decode_flatMap_encodeByte (bs : List UInt8) (cs : List Char) :
    decode (bs.flatMap encodeByte ++ cs) = bs ++ decode cs := by
  induction bs with
  | nil => rfl
  | cons b bs ih =>
    rw [List.flatMap_cons, List.append_assoc, decode_encodeByte, ih, List.cons_append]

end Tidemark.Url.Percent
