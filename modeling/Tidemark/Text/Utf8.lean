/-!
# Bytes as text

Bytes are read as UTF-8.  Reading never fails: what is no character becomes the replacement
character `U+FFFD`, once for each longest part that could have started one.
-/

namespace Tidemark.Text

/-- The character that stands for bytes that are no character. -/
def replacement : Char := '\uFFFD'

namespace Utf8

/-- How many bytes follow a first byte, and the range of the second one. -/
structure Lead where
  following : Nat
  low : Nat
  high : Nat

/-- What a first byte announces. -/
def lead? (b : Nat) : Option Lead :=
  if b < 0x80 then some ⟨0, 0, 0⟩
  else if b < 0xC2 then none
  else if b < 0xE0 then some ⟨1, 0x80, 0xBF⟩
  else if b = 0xE0 then some ⟨2, 0xA0, 0xBF⟩
  else if b = 0xED then some ⟨2, 0x80, 0x9F⟩
  else if b < 0xF0 then some ⟨2, 0x80, 0xBF⟩
  else if b = 0xF0 then some ⟨3, 0x90, 0xBF⟩
  else if b < 0xF4 then some ⟨3, 0x80, 0xBF⟩
  else if b = 0xF4 then some ⟨3, 0x80, 0x8F⟩
  else none

/-- How many of the bytes that should follow do so, at most the given number. -/
def accepted : Nat → Nat → Nat → List UInt8 → Nat
  | 0, _, _, _ => 0
  | _, _, _, [] => 0
  | n + 1, low, high, b :: bs =>
    if low ≤ b.toNat ∧ b.toNat ≤ high then accepted n 0x80 0xBF bs + 1 else 0

/-- The bits of a first byte that belong to the code point. -/
def leadBits (following b : Nat) : Nat :=
  if following = 0 then b else b % Nat.pow 2 (6 - following)

/-- The code point of a first byte and the bytes after it. -/
def codePoint (following b : Nat) (rest : List UInt8) : Nat :=
  (rest.take following).foldl (fun n c => 64 * n + c.toNat % 64) (leadBits following b)

/-- The character at the front, and how many bytes after the first one belong to it. -/
def front (b : UInt8) (bs : List UInt8) : Char × Nat :=
  match lead? b.toNat with
  | none => (replacement, 0)
  | some l =>
    let n := accepted l.following l.low l.high bs
    if n = l.following then (Char.ofNat (codePoint l.following b.toNat bs), n)
    else (replacement, n)

/-- Reads bytes as UTF-8. -/
def decode : List UInt8 → List Char
  | [] => []
  | b :: bs => (front b bs).1 :: decode (bs.drop (front b bs).2)
termination_by bs => bs.length
decreasing_by
  have := List.length_drop (i := (front b bs).2) (l := bs)
  simp only [List.length_cons]
  omega

end Utf8

/-- A text is found again in its bytes. -/
theorem fromUTF8?_toUTF8 (s : String) : String.fromUTF8? s.toUTF8 = some s :=
  dif_pos s.isValidUTF8

end Tidemark.Text
