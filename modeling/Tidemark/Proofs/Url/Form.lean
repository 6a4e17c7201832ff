import Tidemark.Proofs.Text.Pieces
import Tidemark.Proofs.Url.Percent

/-!
# Forms survive their text

The text of a form is read back as the names and values that it was made from, whatever characters
these hold (`Form.decode_encode`).  A character that does not stand for itself is written as its
bytes, and every byte as a percent sign and two digits, so that decoding gives the bytes of the
whole text again (`Form.decodeText_encodeText`).  What separates the parts of a form is never part
of a written name or value (`Form.not_mem_encodeText`), so that every cut is made where two parts
were joined.  Forms that differ have different texts (`Form.encode_injective`).
-/

namespace Tidemark.Url.Form

/-! ### Names and values -/

/-- A character as it is read: a plus stands for a space. -/
def unplus (c : Char) : Char :=
  if c = '+' then ' ' else c

/-- A piece is decoded once its pluses are spaces. -/
lemma decodeText_eq (cs : List Char) :
    decodeText cs = String.fromUTF8? (Percent.decode (cs.map unplus)).toByteArray := by
  have hbytes : ∀ bs : List UInt8, bs.toByteArray = ⟨bs.toArray⟩ := by
    intro bs
    rw [← List.data_toByteArray]
  rw [hbytes]
  rfl

/-- An encoded character has no plus in it. -/
lemma map_unplus_encodeChar (c : Char) :
    (Percent.encodeChar c).map unplus = Percent.encodeChar c := by
  have hdigit : ∀ n < 16, unplus (Percent.hexDigit n) = Percent.hexDigit n := by decide
  rw [List.map_congr_left (g := id) ?_, List.map_id]
  intro d hd
  rcases Percent.mem_encodeChar hd with rfl | ⟨n, hn, rfl⟩
  · rfl
  · exact hdigit n hn

/-- What separates the parts of a form, and what stands for other characters, is not plain. -/
lemma ne_of_isPlain {c : Char} (h : isPlain c = true) :
    c ≠ '+' ∧ c ≠ '%' ∧ c ≠ '&' ∧ c ≠ '=' := by
  refine ⟨?_, ?_, ?_, ?_⟩ <;> rintro rfl <;> exact absurd h (by decide)

/-- A written character is read as its bytes. -/
lemma decode_encodeChar (c : Char) (cs : List Char) :
    Percent.decode ((encodeChar c).map unplus ++ cs)
      = String.utf8EncodeChar c ++ Percent.decode cs := by
  unfold encodeChar
  split
  · next hplain =>
    obtain ⟨hplus, hpercent, -⟩ := ne_of_isPlain hplain
    simp [unplus, hplus, Percent.decode_cons_of_ne hpercent, Percent.bytesOf_eq]
  · split
    · next hspace =>
      subst hspace
      simp [unplus, Percent.decode_cons_of_ne, Percent.bytesOf_eq]
    · rw [map_unplus_encodeChar, Percent.encodeChar, Percent.decode_flatMap_encodeByte,
        Percent.bytesOf_eq]

/-- A written text is read as its bytes. -/
lemma decode_flatMap_encodeChar (cs ds : List Char) :
    Percent.decode ((cs.flatMap encodeChar).map unplus ++ ds)
      = cs.flatMap String.utf8EncodeChar ++ Percent.decode ds := by
  induction cs with
  | nil => rfl
  | cons c cs ih =>
    rw [List.flatMap_cons, List.map_append, List.append_assoc, decode_encodeChar, ih,
      List.flatMap_cons, List.append_assoc]

/-- **A name or a value is read back.** -/
theorem decodeText_encodeText (s : String) : decodeText (encodeText s) = some s := by
  have hbytes : Percent.decode ((encodeText s).map unplus)
      = s.toList.flatMap String.utf8EncodeChar := by
    have hwhole := decode_flatMap_encodeChar s.toList []
    rwa [List.append_nil, Percent.decode, List.append_nil] at hwhole
  rw [decodeText_eq, hbytes, ← Text.toList_toUTF8, Text.fromUTF8?_toByteArray]

/-- Written names and values hold plain characters, pluses and percent signs only. -/
lemma isPlain_of_mem_encodeText {s : String} {c : Char} (hc : c ∈ encodeText s) :
    isPlain c = true ∨ c = '+' ∨ c = '%' := by
  have hdigit : ∀ n < 16, isPlain (Percent.hexDigit n) = true := by decide
  obtain ⟨d, -, hc⟩ := List.mem_flatMap.1 hc
  unfold encodeChar at hc
  split at hc
  · next hplain =>
    obtain rfl := List.mem_singleton.1 hc
    exact .inl hplain
  · split at hc
    · exact .inr (.inl (List.mem_singleton.1 hc))
    · rcases Percent.mem_encodeChar hc with rfl | ⟨n, hn, rfl⟩
      · exact .inr (.inr rfl)
      · exact .inl (hdigit n hn)

/-- What separates the parts of a form is never part of a written name or value. -/
lemma not_mem_encodeText (s : String) : '&' ∉ encodeText s ∧ '=' ∉ encodeText s := by
  constructor <;> intro hmem <;> exact absurd (isPlain_of_mem_encodeText hmem) (by decide)

/-! ### Pairs -/

/-- No written pair holds a separator of pairs. -/
lemma not_mem_encodePair (p : String × String) : '&' ∉ encodePair p := by
  rw [encodePair, List.mem_append, List.mem_cons]
  rintro (hname | heq | hvalue)
  · exact (not_mem_encodeText p.1).1 hname
  · exact absurd heq (by decide)
  · exact (not_mem_encodeText p.2).1 hvalue

/-- A written pair is not empty: it has an equals sign. -/
lemma encodePair_ne_nil (p : String × String) : encodePair p ≠ [] :=
  List.append_ne_nil_of_right_ne_nil _ (List.cons_ne_nil _ _)

/-- A pair is read back. -/
lemma decodePair_encodePair (p : String × String) : decodePair (encodePair p) = some p := by
  have hname : ∀ c ∈ encodeText p.1, decide (c ≠ '=') = true := by
    intro c hc
    refine decide_eq_true ?_
    rintro rfl
    exact (not_mem_encodeText p.1).2 hc
  have hfront : (encodePair p).takeWhile (· ≠ '=') = encodeText p.1 := by
    rw [encodePair, List.takeWhile_append_of_pos hname]
    simp
  have hback : ((encodePair p).dropWhile (· ≠ '=')).drop 1 = encodeText p.2 := by
    rw [encodePair, List.dropWhile_append_of_pos hname]
    simp
  rw [decodePair, hfront, hback, decodeText_encodeText, decodeText_encodeText]
  rfl

/-- Pairs are read back. -/
lemma mapM_decodePair_encodePair (ps : List (String × String)) :
    (ps.map encodePair).mapM decodePair = some ps := by
  induction ps with
  | nil => rfl
  | cons p ps ih => simp [List.mapM_cons, decodePair_encodePair, ih]

/-- **A form is read back from its text**, whatever its names and values hold. -/
theorem decode_encode (ps : List (String × String)) : decode (encode ps) = some ps := by
  have hpieces : (Text.pieces '&' (encode ps).toList).filter (· ≠ []) = ps.map encodePair := by
    rw [encode, String.toList_ofList]
    rcases eq_or_ne ps [] with rfl | hne
    · rfl
    · have hcut : ∀ piece ∈ ps.map encodePair, '&' ∉ piece :=
        List.forall_mem_map.2 fun p _ => not_mem_encodePair p
      have hkept : ∀ piece ∈ ps.map encodePair, decide (piece ≠ []) = true :=
        List.forall_mem_map.2 fun p _ => decide_eq_true (encodePair_ne_nil p)
      rw [Text.pieces_joinPieces (List.map_eq_nil_iff.not.2 hne) hcut,
        List.filter_eq_self.2 hkept]
  rw [decode, hpieces, mapM_decodePair_encodePair]

/-- The text of a form holds plain characters and the signs that it is put together with. -/
lemma isPlain_of_mem_encode {ps : List (String × String)} {c : Char}
    (hc : c ∈ (encode ps).toList) : isPlain c = true ∨ c ∈ ['+', '%', '=', '&'] := by
  have htext : ∀ s, c ∈ encodeText s → isPlain c = true ∨ c ∈ ['+', '%', '=', '&'] := by
    intro s hs
    rcases isPlain_of_mem_encodeText hs with hplain | rfl | rfl
    · exact .inl hplain
    · exact .inr (by decide)
    · exact .inr (by decide)
  rw [encode, String.toList_ofList] at hc
  rcases Text.eq_or_exists_of_mem_joinPieces hc with rfl | ⟨piece, hpiece, hc⟩
  · exact .inr (by decide)
  · obtain ⟨p, -, rfl⟩ := List.mem_map.1 hpiece
    rw [encodePair, List.mem_append, List.mem_cons] at hc
    rcases hc with hname | rfl | hvalue
    · exact htext p.1 hname
    · exact .inr (by decide)
    · exact htext p.2 hvalue

/-- Forms that differ have different texts. -/
theorem encode_injective : Function.Injective encode := by
  intro ps qs h
  have hread := decode_encode ps
  rw [h, decode_encode] at hread
  exact (Option.some.inj hread).symm

end Tidemark.Url.Form
