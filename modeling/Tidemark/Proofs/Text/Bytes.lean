import Mathlib.Data.List.Basic
import Mathlib.Tactic.Common
import Tidemark.Text.Utf8

/-!
# Bytes of texts

The bytes of a text are the codes of its characters, one after the other (`toList_toUTF8`).  A byte
below `0x80` is a character of its own (`mem_utf8EncodeChar`), so that what no character of a text
is, no byte of its code is either.  A text in ASCII has one byte for each character, and it is the
text of these bytes (`toUTF8_eq_iff_of_ascii`).
-/

namespace Tidemark.Text

/-- Bytes are collected from a place on. -/
lemma toList_loop_eq (bytes : ByteArray) (i : ℕ) (bs : List UInt8) :
    ByteArray.toList.loop bytes i bs = bs.reverse ++ bytes.data.toList.drop i := by
  fun_induction ByteArray.toList.loop bytes i bs with
  | case1 i bs h ih =>
    have hi : i < bytes.data.toList.length := h
    rw [ih, List.drop_eq_getElem_cons hi]
    simp [ByteArray.get!, h]
  | case2 i bs h =>
    have hi : bytes.data.toList.length ≤ i := Nat.le_of_not_lt h
    rw [List.drop_eq_nil_of_le hi, List.append_nil]

/-- The bytes of an array are its data. -/
lemma toList_eq_data (bytes : ByteArray) : bytes.toList = bytes.data.toList := by
  rw [ByteArray.toList, toList_loop_eq]
  rfl

/-- Two arrays with the same bytes are one. -/
lemma eq_of_toList_eq {bytes bytes' : ByteArray} (h : bytes.toList = bytes'.toList) :
    bytes = bytes' := by
  rw [toList_eq_data, toList_eq_data] at h
  exact ByteArray.ext (Array.toList_inj.1 h)

/-- The bytes of a text are the codes of its characters. -/
lemma toList_toUTF8 (s : String) : s.toUTF8.toList = s.toList.flatMap String.utf8EncodeChar := by
  rw [toList_eq_data, String.toUTF8, ← String.utf8Encode_toList, List.utf8Encode,
    List.toList_data_toByteArray]

/-- A text is found again in the list of its bytes. -/
lemma fromUTF8?_toByteArray (s : String) :
    String.fromUTF8? s.toUTF8.toList.toByteArray = some s := by
  have hbytes : s.toUTF8.toList.toByteArray = s.toByteArray := by
    rw [toList_toUTF8]
    exact String.utf8Encode_toList
  rw [hbytes]
  exact fromUTF8?_toUTF8 s

/-- A byte of a character is the character itself or no ASCII character. -/
lemma mem_utf8EncodeChar {c : Char} {b : UInt8} (h : b ∈ String.utf8EncodeChar c) :
    b.toNat = c.toNat ∨ 0x80 ≤ b.toNat := by
  have hvalue : ∀ n, (UInt8.ofNat n).toNat = n % 256 := fun n => UInt8.toNat_ofNat'
  have hc : c.val.toNat = c.toNat := rfl
  simp only [String.utf8EncodeChar] at h
  split_ifs at h <;> simp only [List.mem_cons, List.not_mem_nil, or_false] at h
  · rw [h, hvalue]
    omega
  · rcases h with rfl | rfl <;> rw [hvalue] <;> omega
  · rcases h with rfl | rfl | rfl <;> rw [hvalue] <;> omega
  · rcases h with rfl | rfl | rfl | rfl <;> rw [hvalue] <;> omega

/-- What bounds the characters of a text from below bounds its bytes, up to `0x80`. -/
lemma le_of_mem_toUTF8 {s : String} {n : ℕ} (hn : n ≤ 0x80) (hs : ∀ c ∈ s.toList, n ≤ c.toNat)
    {b : UInt8} (hb : b ∈ s.toUTF8.toList) : n ≤ b.toNat := by
  rw [toList_toUTF8] at hb
  obtain ⟨c, hc, hb⟩ := List.mem_flatMap.1 hb
  rcases mem_utf8EncodeChar hb with heq | hle
  · rw [heq]
    exact hs c hc
  · exact Nat.le_trans hn hle

/-! ### ASCII -/

/-- A byte is the number of its character. -/
lemma toNat_ofNat_byte (b : UInt8) : (Char.ofNat b.toNat).toNat = b.toNat := by
  have hb : b.toNat < 256 := b.toNat_lt
  have hvalid : b.toNat.isValidChar := .inl (by omega)
  rw [Char.ofNat, dif_pos hvalid]
  rfl

/-- The bytes of a text in ASCII are the numbers of its characters. -/
lemma toList_toUTF8_of_ascii {s : String} (hs : ∀ c ∈ s.toList, c.toNat < 0x80) :
    s.toUTF8.toList = s.toList.map fun c => UInt8.ofNat c.toNat := by
  rw [toList_toUTF8, ← List.flatMap_pure_eq_map]
  refine List.flatMap_congr fun c hc => ?_
  have hle : c.val.toNat ≤ 0x7f := Nat.le_of_lt_succ (hs c hc)
  rw [String.utf8EncodeChar]
  simp only [hle, if_true]
  rfl

/-- Bytes are the bytes of the text in ASCII that has their characters. -/
lemma toUTF8_eq_iff_of_ascii {s : String} {bytes : ByteArray}
    (hs : ∀ c ∈ s.toList, c.toNat < 0x80) :
    bytes = s.toUTF8 ↔ s = String.ofList (bytes.toList.map fun b => Char.ofNat b.toNat) := by
  constructor
  · rintro rfl
    have hback : ∀ c ∈ s.toList, Char.ofNat (UInt8.ofNat c.toNat).toNat = c := by
      intro c hc
      have hlt : c.toNat < UInt8.size := Nat.lt_trans (hs c hc) (by decide)
      rw [UInt8.toNat_ofNat_of_lt' hlt]
      exact Char.ofNat_toNat c
    rw [toList_toUTF8_of_ascii hs, List.map_map]
    change _ = String.ofList (s.toList.map fun c => Char.ofNat (UInt8.ofNat c.toNat).toNat)
    rw [List.map_congr_left hback, List.map_id', String.ofList_toList]
  · intro h
    apply eq_of_toList_eq
    rw [toList_toUTF8_of_ascii hs, h, String.toList_ofList, List.map_map]
    refine (List.map_id'' (fun b => ?_) _).symm
    rw [Function.comp_apply, toNat_ofNat_byte]
    exact UInt8.ofNat_toNat

end Tidemark.Text
