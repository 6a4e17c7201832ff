import Tidemark.Proofs.Remote.Answer
import Tidemark.Proofs.Remote.BaseUrl
import Tidemark.Proofs.Url.Form

/-!
# Points in time on their way

A point in time comes in as the text of a header and goes out again as a parameter of a URL.  It is
read exactly from the texts that write its number (`Engine.PointInTime.read_eq_ok_iff_writes`), and
a number beyond 64 bits is refused, so that no text is read as another number than it writes.  The
place that executes plans at a point in time is the one without it, with a query that names the
number in decimal (`rowsUrl_some`).  So the point in time of an answer is named unchanged to the
service (`points_in_time_are_carried_over`).
-/

namespace Tidemark

open Text (AllBlank)
open Text.Count (Writes)

namespace Engine.PointInTime

/-- A number beyond 64 bits is refused. -/
lemma read_of_size_le {text : String} {n : ℕ} (h : Writes text n) (hn : UInt64.size ≤ n) :
    read text = .error .tooLarge := by
  rw [read, h.readTrimmed_of_bound_le hn]
  rfl

/-- A text is refused exactly if it writes no number within 64 bits. -/
lemma exists_read_eq_error_iff {text : String} :
    (∃ fault, read text = .error fault) ↔ ∀ n, Writes text n → UInt64.size ≤ n := by
  constructor
  · rintro ⟨fault, hfault⟩ n hn
    by_contra hlt
    have hvalue : (UInt64.ofNat n).toNat = n := UInt64.toNat_ofNat_of_lt' (Nat.lt_of_not_le hlt)
    have hread : read text = .ok ⟨UInt64.ofNat n⟩ := read_eq_ok_iff_writes.2 (by rwa [hvalue])
    cases hread.symm.trans hfault
  · intro h
    cases hread : read text with
    | error fault => exact ⟨fault, rfl⟩
    | ok t =>
      have hsize := h _ (read_eq_ok_iff_writes.1 hread)
      exact absurd t.value.toNat_lt_size (Nat.not_lt.2 hsize)

/-- What is read from a text that writes a number is this number. -/
lemma eq_toNat_of_read {text : String} {n : ℕ} {t : PointInTime} (h : Writes text n)
    (hread : read text = .ok t) : n = t.value.toNat := by
  obtain ⟨m, hm, rfl⟩ := exists_of_map_eq_ok hread
  exact h.eq_toNat hm

/-- A point in time is written as its number in decimal. -/
lemma render_eq_toString (t : PointInTime) : t.render = toString t.value.toNat :=
  rfl

/-- A point in time is read back from its text between any blanks. -/
lemma read_render_between (t : PointInTime) {front back : String} (hfront : AllBlank front.toList)
    (hback : AllBlank back.toList) : read (front ++ t.render ++ back) = .ok t :=
  read_eq_ok_iff_writes.2 (Text.Count.writes_render_between hfront hback t.value)

end Engine.PointInTime

/-- A query is written behind a URL that has none, after a question mark. -/
lemma Url.render_with_query {u : Url} (hquery : u.query = none) (hfragment : u.fragment = none)
    (q : String) : ({ u with query := some q } : Url).render = u.render ++ "?" ++ q := by
  have hauthority : ({ u with query := some q } : Url).authorityText = u.authorityText := rfl
  rw [render, render, hauthority]
  dsimp only
  rw [hquery, hfragment]
  simp only [String.append_empty, String.append_assoc]

namespace Remote.Client

open Engine (PointInTime)

/-- The place that executes plans has neither a query nor a fragment. -/
lemma query_of_rowsUrl {c : Client} {u : Url} (h : c.rowsUrl none = .ok u) :
    u.query = none ∧ u.fragment = none := by
  obtain ⟨v, hv, heq⟩ := exists_of_bind_eq_ok h
  obtain rfl := Except.ok.inj heq
  unfold Url.resolve at hv
  split at hv
  · cases hv
  · obtain rfl := Except.ok.inj hv
    exact ⟨rfl, rfl⟩

/-- A point in time is named in the query of that place. -/
lemma rowsUrl_some {c : Client} {u : Url} (h : c.rowsUrl none = .ok u) (t : PointInTime) :
    c.rowsUrl (some t) = .ok { u with query := some ("timestamp=" ++ t.render) } := by
  obtain ⟨hquery, -⟩ := query_of_rowsUrl h
  obtain ⟨v, hv, heq⟩ := exists_of_bind_eq_ok h
  obtain rfl := Except.ok.inj heq
  rw [rowsUrl, hv, ← encode_timestamp]
  change Except.ok (v.addPairs [("timestamp", t.render)]) = _
  rw [Url.addPairs, hquery]

/-- Wherever plans are executed at a point in time they are executed without one, too. -/
lemma exists_rowsUrl_none {c : Client} {t : PointInTime} {v : Url}
    (h : c.rowsUrl (some t) = .ok v) : ∃ u, c.rowsUrl none = .ok u := by
  obtain ⟨u, hu, -⟩ := exists_of_bind_eq_ok h
  refine ⟨u, ?_⟩
  rw [rowsUrl, hu]
  rfl

/-- **A point in time is carried over unchanged.**  A text is read as a point in time exactly if it
writes its number: with at least one decimal digit, perhaps after a plus sign, between any blanks.
Every other text is refused, one that writes a number beyond 64 bits as too large.  A point in time
is read back from its own text, whatever blanks are around it, and points in time are in the order
of the numbers that were read.  Where the client takes one from the header of an answer, the header
writes its number, and plans are executed at that point in time wherever they are executed without
one: the place is the same, with a query whose one parameter is the number in decimal; from this
parameter the same point in time is read. -/
theorem points_in_time_are_carried_over :
    (∀ text t, PointInTime.read text = .ok t ↔ Writes text t.value.toNat) ∧
    (∀ text, (∃ fault, PointInTime.read text = .error fault) ↔
      ∀ n, Writes text n → UInt64.size ≤ n) ∧
    (∀ text n, Writes text n → UInt64.size ≤ n → PointInTime.read text = .error .tooLarge) ∧
    (∀ (t : PointInTime) (front back : String), AllBlank front.toList → AllBlank back.toList →
      PointInTime.read (front ++ t.render ++ back) = .ok t) ∧
    (∀ text text' n n' t t', Writes text n → Writes text' n' → PointInTime.read text = .ok t →
      PointInTime.read text' = .ok t' → (t.value ≤ t'.value ↔ n ≤ n')) ∧
    ∀ requested r raw t, r.header? timestampHeader = some raw → tokenOf requested r = .ok t →
      Writes raw t.value.toNat ∧ PointInTime.read (toString t.value.toNat) = .ok t ∧
      ∀ c : Client, (∀ u, c.rowsUrl none = .ok u → ∃ v, c.rowsUrl (some t) = .ok v) ∧
        ∀ v, c.rowsUrl (some t) = .ok v →
          ∃ u q, c.rowsUrl none = .ok u ∧ v = { u with query := some q } ∧
            v.render = u.render ++ "?timestamp=" ++ toString t.value.toNat ∧
            Url.Form.decode q = some [("timestamp", toString t.value.toNat)] := by
  refine ⟨fun text t => PointInTime.read_eq_ok_iff_writes,
    fun text => PointInTime.exists_read_eq_error_iff, fun text n => PointInTime.read_of_size_le,
    fun t front back => t.read_render_between, ?_, ?_⟩
  · intro text text' n n' t t' hn hn' ht ht'
    rw [PointInTime.eq_toNat_of_read hn ht, PointInTime.eq_toNat_of_read hn' ht']
    exact UInt64.le_iff_toNat_le
  · intro requested r raw t hraw htoken
    have hread : PointInTime.read raw = .ok t := by
      rcases tokenOf_eq_ok_iff.1 htoken with ⟨hshown, hread⟩ | ⟨hnone, -⟩
      · cases (header?_timestampHeader_iff.2 hshown).symm.trans hraw
        exact hread
      · exact absurd (header?_timestampHeader_iff.1 hraw) (hnone raw)
    have hback : PointInTime.read ("" ++ t.render ++ "") = .ok t :=
      t.read_render_between nofun nofun
    rw [String.empty_append, String.append_empty] at hback
    refine ⟨PointInTime.read_eq_ok_iff_writes.1 hread, hback, fun c => ⟨fun u hu => ?_, ?_⟩⟩
    · exact ⟨_, rowsUrl_some hu t⟩
    · intro v hv
      obtain ⟨u, hu⟩ := exists_rowsUrl_none hv
      obtain ⟨hquery, hfragment⟩ := query_of_rowsUrl hu
      obtain rfl := Except.ok.inj ((rowsUrl_some hu t).symm.trans hv)
      refine ⟨u, _, hu, rfl, ?_, ?_⟩
      · rw [Url.render_with_query hquery hfragment, t.render_eq_toString]
        simp only [String.append_assoc]
        rfl
      · rw [← encode_timestamp, Url.Form.decode_encode, t.render_eq_toString]

/-- An answer whose header names the greatest point in time with a plus sign and zeros. -/
def greatestAnswer : Response where
  status := 200
  headers := [("ml-effective-timestamp", " +0018446744073709551615\t".toUTF8)]
  body := none

/-- The greatest point in time is named to the service without sign and zeros, and is read back; the
next number is refused. -/
theorem greatest_point_in_time_is_carried_over :
    tokenOf none greatestAnswer = .ok ⟨18446744073709551615⟩ ∧
    (∃ v, authorsClient.rowsUrl (some ⟨18446744073709551615⟩) = .ok v ∧
      v.render = "http://localhost:8000/v1/rows?timestamp=18446744073709551615") ∧
    PointInTime.read "18446744073709551615" = .ok ⟨18446744073709551615⟩ ∧
    PointInTime.read "18446744073709551616" = .error .tooLarge := by
  obtain ⟨hread, -, hlarge, -, -, hanswer⟩ := points_in_time_are_carried_over
  have hraw : greatestAnswer.header? timestampHeader = some " +0018446744073709551615\t" := by
    decide +kernel
  have htoken : tokenOf none greatestAnswer = .ok ⟨18446744073709551615⟩ := by
    decide +kernel
  have hplace : authorsClient.rowsUrl none = .ok ⟨"http", "", some "localhost", some 8000,
      .segments ["v1", "rows"], none, none⟩ := by
    decide +kernel
  have htext : (Url.mk "http" "" (some "localhost") (some 8000) (.segments ["v1", "rows"]) none
      none).render ++ "?timestamp=" ++ toString (18446744073709551615 : ℕ)
        = "http://localhost:8000/v1/rows?timestamp=18446744073709551615" := by
    decide +kernel
  have hnext : Writes "18446744073709551616" 18446744073709551616 :=
    ⟨[], "18446744073709551616".toList, [], nofun, nofun, by decide, List.all_eq_true.1 rfl,
      .inl rfl, by decide⟩
  obtain ⟨-, hback, hurls⟩ := hanswer none greatestAnswer _ _ hraw htoken
  obtain ⟨hpinned, hnamed⟩ := hurls authorsClient
  obtain ⟨v, hv⟩ := hpinned _ hplace
  obtain ⟨u, -, hu, -, hrender, -⟩ := hnamed v hv
  obtain rfl := Except.ok.inj (hplace.symm.trans hu)
  exact ⟨htoken, ⟨v, hv, hrender.trans htext⟩, hback, hlarge _ _ hnext (by decide)⟩

end Remote.Client

end Tidemark
