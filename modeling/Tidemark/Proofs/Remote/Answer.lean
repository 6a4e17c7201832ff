import Tidemark.Proofs.Json.Agreement
import Tidemark.Proofs.Text.Bytes
import Tidemark.Proofs.Text.Decimal
import Tidemark.Remote.Client

/-!
# The answer to a plan

A header is found exactly if the first one of its name has a readable text
(`Response.header?_eq_some_iff`).  The rows that a body is read as are the items of the array that
stands in its text, all of them and in order (`RowsBody.rowsPart_eq`).  From an answer the client
takes a point in time (`TakenAt`) and rows (`Holds`), and it gives a result exactly if the status
reports success and both are there (`resultOf_eq_ok_iff`).  Otherwise the first thing that is wrong
is reported: the status, the header that names the point in time, or the body
(`answers_are_not_invented`).
-/

namespace Tidemark

/-- A point in time is read exactly from the texts that write its number. -/
lemma Engine.PointInTime.read_eq_ok_iff_writes {text : String} {t : Engine.PointInTime} :
    read text = .ok t ↔ Text.Count.Writes text t.value.toNat := by
  rw [← Text.Count.readTrimmed_eq_ok_iff_writes, read]
  constructor
  · intro h
    obtain ⟨n, hn, rfl⟩ := exists_of_map_eq_ok h
    exact hn
  · intro h
    rw [h]
    rfl

namespace Remote

open Json.Decoder

/-! ### Headers -/

/-- A character that the value of a header can show: a tab or a printable one of ASCII. -/
def IsPrintable (c : Char) : Prop :=
  c.toNat = 9 ∨ (32 ≤ c.toNat ∧ c.toNat < 127)

lemma IsPrintable.toNat_lt {c : Char} (h : IsPrintable c) : c.toNat < 0x80 := by
  rcases h with h | h <;> omega

lemma isPrintable_ofNat_iff {b : UInt8} :
    IsPrintable (Char.ofNat b.toNat) ↔ (b = 9 || (32 ≤ b && b < 127)) = true := by
  rw [IsPrintable, Text.toNat_ofNat_byte]
  simp only [Bool.or_eq_true, Bool.and_eq_true, decide_eq_true_eq, ← UInt8.toNat_inj,
    UInt8.le_iff_toNat_le, UInt8.lt_iff_toNat_lt]
  rfl

namespace Response

/-- The first header of a name, which is given in small letters, has a readable text. -/
structure Shows (r : Response) (name raw : String) : Prop where
  first : ∃ front label rest, r.headers = front ++ (label, raw.toUTF8) :: rest ∧
    label.toList.map Char.toLower = name.toList ∧
    ∀ h ∈ front, h.1.toList.map Char.toLower ≠ name.toList
  printable : ∀ c ∈ raw.toList, IsPrintable c

/-- The value of a header is readable exactly if it consists of such characters, and it is read as
these. -/
lemma printable?_eq_some_iff {value : ByteArray} {raw : String} :
    printable? value = some raw ↔ value = raw.toUTF8 ∧ ∀ c ∈ raw.toList, IsPrintable c := by
  have hprintable :
      (∀ c ∈ (String.ofList (value.toList.map fun b => Char.ofNat b.toNat)).toList,
        IsPrintable c) ↔ (value.toList.all fun b => b = 9 || (32 ≤ b && b < 127)) = true := by
    rw [String.toList_ofList, List.forall_mem_map, List.all_eq_true]
    exact forall₂_congr fun b _ => isPrintable_ofNat_iff
  unfold printable?
  constructor
  · intro h
    split at h
    next hall =>
      obtain rfl := Option.some.inj h
      have hraw := hprintable.2 hall
      exact ⟨(Text.toUTF8_eq_iff_of_ascii fun c hc => (hraw c hc).toNat_lt).2 rfl, hraw⟩
    next => cases h
  · rintro ⟨hvalue, hraw⟩
    have heq := (Text.toUTF8_eq_iff_of_ascii fun c hc => (hraw c hc).toNat_lt).1 hvalue
    rw [heq] at hraw ⊢
    rw [if_pos (hprintable.1 hraw)]

/-- A header is found exactly if the first one of its name is readable. -/
lemma header?_eq_some_iff {r : Response} {name raw : String} :
    r.header? name = some raw ↔ r.Shows (headerKey name) raw := by
  have hkey : ∀ label, headerKey label = headerKey name ↔
      label.toList.map Char.toLower = (headerKey name).toList := by
    intro label
    rw [← String.toList_inj, headerKey, String.toList_ofList]
  rw [header?, Option.bind_eq_some_iff]
  constructor
  · rintro ⟨⟨label, value⟩, hfind, hvalue⟩
    obtain ⟨rfl, hraw⟩ := printable?_eq_some_iff.1 hvalue
    obtain ⟨hlabel, front, rest, hheaders, hfront⟩ := List.find?_eq_some_iff_append.1 hfind
    refine ⟨⟨front, label, rest, hheaders, (hkey _).1 (of_decide_eq_true hlabel), ?_⟩, hraw⟩
    intro h hh
    rw [← (hkey h.1).ne]
    simpa using hfront h hh
  · rintro ⟨⟨front, label, rest, hheaders, hlabel, hfront⟩, hraw⟩
    refine ⟨(label, raw.toUTF8), ?_, printable?_eq_some_iff.2 ⟨rfl, hraw⟩⟩
    refine List.find?_eq_some_iff_append.2 ⟨decide_eq_true ((hkey _).2 hlabel), front, rest,
      hheaders, ?_⟩
    intro h hh
    have hne := hfront h hh
    rw [← (hkey h.1).ne] at hne
    simpa using hne

/-- No header is found exactly if the first one of its name, if there is one, is not readable. -/
lemma header?_eq_none_iff {r : Response} {name : String} :
    r.header? name = none ↔ ∀ raw, ¬ r.Shows (headerKey name) raw := by
  rw [Option.eq_none_iff_forall_ne_some]
  exact forall_congr' fun raw => not_congr header?_eq_some_iff

end Response

/-! ### Bodies -/

namespace RowsBody

/-- The value that says what the rows of an answer are: its member `rows`, or the second item of an
answer that is written as an array. -/
def rowsPart : Json → Json
  | .object ms => (Members.find? "rows" ms).getD (.array [])
  | .array (_ :: rows :: _) => rows
  | _ => .array []

/-- Reading a row reads the object that stands there. -/
lemma agree_row_value (depth : Nat) :
    Agree (fun row v => row.toJson = v) (Engine.Row.decoder depth) (value depth) := by
  intro cs row v rest rest' h h'
  obtain ⟨⟨ms, rest⟩, hread, heq⟩ := exists_of_map_eq_ok h
  cases heq
  obtain ⟨hv, hrest⟩ := agree_map_value depth hread h'
  exact ⟨hv.symm, hrest⟩

/-- Reading a column ends where reading the value there ends. -/
lemma agree_column_value (depth : Nat) :
    Agree (fun _ _ => True) (columnDecoder depth) (value depth) := by
  have hread : ∀ f ∈ columnFields, ∀ (s : String) depth,
      Agree (fun _ _ => True) (f.read s depth) (value depth) := by
    intro f hf s depth cs t v rest rest' h h'
    obtain rfl := List.mem_singleton.1 hf
    exact ⟨trivial, (agree_string_value depth h h').2⟩
  have hmembers : FollowsMembers columnFields fun _ _ => True :=
    ⟨fun f hf s depth cs t v rest rest' h h' =>
      ⟨fun _ _ => trivial, (hread f hf s depth h h').2⟩, fun _ _ _ _ _ _ => trivial⟩
  have hitems : FollowsItems fun fs _ (_ : String) => fs <:+ columnFields := by
    intro f fs vs s depth hfs cs t v rest rest' h h'
    exact ⟨(List.suffix_cons f fs).trans hfs,
      (hread f (hfs.subset List.mem_cons_self) s depth h h').2⟩
  intro cs s v rest rest' h h'
  exact ⟨trivial,
    (agree_record_value hmembers hitems trivial (List.suffix_refl _) depth h h').2⟩

/-- The rows that a sequence of rows is read as are the items of the array that stands there. -/
lemma agree_rows_value (depth : Nat) :
    Agree (fun rows v => v = .array (rows.map Engine.Row.toJson))
      (Json.Decoder.list Engine.Row.decoder depth) (value depth) := by
  intro cs rows v rest rest' h h'
  obtain ⟨⟨vs, rfl, hvs⟩, hrest⟩ := Agree.list agree_row_value depth h h'
  refine ⟨?_, hrest⟩
  rw [← List.forall₂_map_left_iff, List.forall₂_eq_eq_eq] at hvs
  rw [hvs]

/-- The rows are the value of the last member of their name. -/
lemma followsMembers_fields : FollowsMembers fields fun ms b =>
    rowsPart (Json.ofMembers ms) = .array (b.rows.map Engine.Row.toJson) := by
  have hinsert : ∀ (ms : List (String × Json)) k v,
      Members.ofPairs (ms ++ [(k, v)]) = Members.insert k v (Members.ofPairs ms) := by
    intro ms k v
    rw [Members.ofPairs, List.foldl_append]
    rfl
  have hother : ∀ (ms : List (String × Json)) k v, "rows" ≠ k →
      rowsPart (Json.ofMembers (ms ++ [(k, v)])) = rowsPart (Json.ofMembers ms) := by
    intro ms k v hk
    rw [Json.ofMembers, hinsert, rowsPart, Members.find?_insert_of_ne hk]
    rfl
  refine ⟨fun f hf b depth cs t v rest rest' h h' => ?_, fun k hfind v ms b h => ?_⟩
  · rcases List.mem_cons.1 hf with rfl | hf
    · -- the columns
      obtain ⟨⟨columns, cs₁⟩, hread, heq⟩ := exists_of_map_eq_ok h
      cases heq
      have hrest := (Agree.list agree_column_value depth hread h').2
      exact ⟨fun ms hms => (hother ms "columns" v (by decide)).trans hms, hrest⟩
    · -- the rows
      obtain rfl := List.mem_singleton.1 hf
      obtain ⟨⟨rows, cs₁⟩, hread, heq⟩ := exists_of_map_eq_ok h
      cases heq
      obtain ⟨rfl, hrest⟩ := agree_rows_value depth hread h'
      refine ⟨fun ms _ => ?_, hrest⟩
      rw [Json.ofMembers, hinsert, rowsPart, Members.find?_insert_self]
      rfl
  · refine (hother ms k v ?_).trans h
    rintro rfl
    cases hfind

/-- The items of an answer that is written as an array are its columns and its rows. -/
lemma followsItems_fields : FollowsItems fun fs vs (b : RowsBody) =>
    (fs = fields ∧ vs = [] ∧ b = empty) ∨ (∃ v, fs = fields.tail ∧ vs = [v] ∧ b.rows = []) ∨
      ∃ v, fs = [] ∧ vs = [v, .array (b.rows.map Engine.Row.toJson)] := by
  rintro f fs vs b depth (⟨hfs, rfl, rfl⟩ | ⟨w, hfs, rfl, hrows⟩ | ⟨w, hfs, -⟩)
    cs t v rest rest' h h'
  · obtain ⟨rfl, rfl⟩ := List.cons.inj hfs
    obtain ⟨⟨columns, cs₁⟩, hread, heq⟩ := exists_of_map_eq_ok h
    cases heq
    exact ⟨.inr (.inl ⟨v, rfl, rfl, rfl⟩), (Agree.list agree_column_value depth hread h').2⟩
  · obtain ⟨rfl, rfl⟩ := List.cons.inj hfs
    obtain ⟨⟨rows, cs₁⟩, hread, heq⟩ := exists_of_map_eq_ok h
    cases heq
    obtain ⟨rfl, hrest⟩ := agree_rows_value depth hread h'
    exact ⟨.inr (.inr ⟨w, rfl, rfl⟩), hrest⟩
  · cases hfs

/-- **The rows of an answer are all the items of the array that stands in its text.** -/
theorem rowsPart_eq {text : String} {v : Json} {b : RowsBody} (hv : Json.read text = .ok v)
    (hb : readAll decoder text = .ok b) : rowsPart v = .array (b.rows.map Engine.Row.toJson) := by
  have hagree : Agree _ (decoder maxDepth) (value maxDepth) :=
    agree_record_value followsMembers_fields followsItems_fields rfl (.inl ⟨rfl, rfl, rfl⟩) maxDepth
  rcases hagree.readAll hb hv with ⟨ms, rfl, hrows⟩ | ⟨vs, fs, rfl, hvs⟩
  · exact hrows
  · rcases hvs with ⟨-, rfl, rfl⟩ | ⟨w, -, rfl, hrows⟩ | ⟨w, -, rfl⟩
    · rfl
    · rw [hrows]
      rfl
    · rfl

end RowsBody

namespace Client

open Engine (PointInTime Row EngineError QueryResult)

/-- The point in time of an answer: the one that its header names, or the requested one where no
readable header names any. -/
inductive TakenAt (requested : Option PointInTime) (r : Response) (token : PointInTime) : Prop
  | named {raw : String} (hraw : r.Shows "ml-effective-timestamp" raw)
      (hread : PointInTime.read raw = .ok token)
  | pinned (hraw : ∀ raw, ¬ r.Shows "ml-effective-timestamp" raw)
      (hrequested : requested = some token)

/-- The rows of an answer: none if there is no content or a blank body, otherwise those that its
body is read as. -/
inductive Holds (reading : TextReading) (r : Response) : List Row → Prop
  | noContent (hstatus : r.status = 204) : Holds reading r []
  | blank (hstatus : r.status ≠ 204) {text : String} (htext : r.text? reading = some text)
      (hblank : Text.AllBlank text.toList) : Holds reading r []
  | body (hstatus : r.status ≠ 204) {text : String} (htext : r.text? reading = some text)
      (hblank : ¬ Text.AllBlank text.toList) {b : RowsBody}
      (hread : readAll RowsBody.decoder text = .ok b) : Holds reading r b.rows

variable {reading : TextReading} {requested : Option PointInTime} {r : Response}

/-- The header in which the service names a point in time. -/
lemma headerKey_timestampHeader : headerKey timestampHeader = "ml-effective-timestamp" := by
  decide +kernel

/-- The header that the client looks for, if it is readable. -/
lemma header?_timestampHeader_iff {raw : String} :
    r.header? timestampHeader = some raw ↔ r.Shows "ml-effective-timestamp" raw := by
  rw [Response.header?_eq_some_iff, headerKey_timestampHeader]

lemma header?_timestampHeader_eq_none_iff :
    r.header? timestampHeader = none ↔ ∀ raw, ¬ r.Shows "ml-effective-timestamp" raw := by
  rw [Response.header?_eq_none_iff, headerKey_timestampHeader]

/-- The client takes the point in time of an answer, if there is one. -/
lemma tokenOf_eq_ok_iff {token : PointInTime} :
    tokenOf requested r = .ok token ↔ TakenAt requested r token := by
  constructor
  · intro h
    unfold tokenOf at h
    split at h
    next raw hraw =>
      cases hread : PointInTime.read raw with
      | error fault =>
        rw [hread] at h
        cases h
      | ok t =>
        rw [hread] at h
        cases h
        exact .named (header?_timestampHeader_iff.1 hraw) hread
    next hraw =>
      split at h
      · cases h
        exact .pinned (header?_timestampHeader_eq_none_iff.1 hraw) rfl
      · cases h
  · unfold tokenOf
    rintro (⟨hraw, hread⟩ | ⟨hraw, rfl⟩)
    · rw [header?_timestampHeader_iff.2 hraw]
      dsimp only
      rw [hread]
      rfl
    · rw [header?_timestampHeader_eq_none_iff.2 hraw]

/-- The client takes the rows of an answer, if there are any to take. -/
lemma rowsOf_eq_ok_iff {rows : List Row} : rowsOf reading r = .ok rows ↔ Holds reading r rows := by
  constructor
  · intro h
    unfold rowsOf at h
    split at h
    next hstatus =>
      cases h
      exact .noContent hstatus
    next hstatus =>
      split at h
      · cases h
      next text htext =>
        by_cases hblank : Text.AllBlank text.toList
        · rw [RowsBody.read, if_pos (Text.isBlankText_iff.2 hblank)] at h
          cases h
          exact .blank hstatus htext hblank
        · rw [RowsBody.read, if_neg (mt Text.isBlankText_iff.1 hblank)] at h
          split at h
          next b hread =>
            cases h
            exact .body hstatus htext hblank hread
          · cases h
  · rintro (hstatus | ⟨hstatus, htext, hblank⟩ | ⟨hstatus, htext, hblank, hread⟩)
    · rw [rowsOf, if_pos hstatus]
    · rw [rowsOf, if_neg hstatus, htext]
      dsimp only
      rw [RowsBody.read, if_pos (Text.isBlankText_iff.2 hblank)]
      rfl
    · rw [rowsOf, if_neg hstatus, htext]
      dsimp only
      rw [RowsBody.read, if_neg (mt Text.isBlankText_iff.1 hblank), hread]

/-- A result is given exactly if the status reports success and the answer has a point in time and
rows; it consists of these. -/
lemma resultOf_eq_ok_iff {result : QueryResult} :
    resultOf reading requested r = .ok result ↔
      r.status / 100 = 2 ∧ TakenAt requested r result.token ∧ Holds reading r result.rows := by
  rw [← Response.isSuccess_iff, ← tokenOf_eq_ok_iff, ← rowsOf_eq_ok_iff]
  constructor
  · intro h
    unfold resultOf at h
    dsimp only at h
    split at h
    · cases h
    next hsuccess =>
      obtain ⟨token, htoken, h⟩ := exists_of_bind_eq_ok h
      obtain ⟨rows, hrows, h⟩ := exists_of_bind_eq_ok h
      cases h
      exact ⟨not_not.1 hsuccess, htoken, hrows⟩
  · rintro ⟨hsuccess, htoken, hrows⟩
    rw [resultOf, if_neg (not_not.2 hsuccess), htoken, hrows]
    rfl

/-- An answer that reports no success is refused with its status and its text, whatever its headers
are. -/
lemma resultOf_of_failed (h : r.status / 100 ≠ 2) :
    resultOf reading requested r = .error (.status r.status ((r.text? reading).getD "")) := by
  rw [resultOf, if_pos (mt Response.isSuccess_iff.1 h)]
  rfl

/-- After the status, the point in time decides. -/
lemma resultOf_of_token_error (h : r.status / 100 = 2) {e : EngineError}
    (htoken : tokenOf requested r = .error e) : resultOf reading requested r = .error e := by
  rw [resultOf, if_neg (not_not.2 (Response.isSuccess_iff.2 h)), htoken]
  rfl

/-- After the point in time, the rows decide. -/
lemma resultOf_of_rows_error (h : r.status / 100 = 2) {token : PointInTime}
    (htoken : TakenAt requested r token) {e : EngineError} (hrows : rowsOf reading r = .error e) :
    resultOf reading requested r = .error e := by
  rw [resultOf, if_neg (not_not.2 (Response.isSuccess_iff.2 h)), tokenOf_eq_ok_iff.2 htoken, hrows]
  rfl

/-- A readable header that names no point in time is reported, also where one was requested. -/
lemma tokenOf_of_malformed {raw : String} (hraw : r.Shows "ml-effective-timestamp" raw)
    {fault : Text.CountFault} (hread : PointInTime.read raw = .error fault) :
    tokenOf requested r = .error (.undecodable
      ("invalid ML-Effective-Timestamp header '" ++ raw ++ "': " ++ fault.message)) := by
  unfold tokenOf
  rw [header?_timestampHeader_iff.2 hraw]
  dsimp only
  rw [hread]
  rfl

/-- A body that is read in no way is reported. -/
lemma rowsOf_of_malformed (hstatus : r.status ≠ 204) {text : String}
    (htext : r.text? reading = some text) (hblank : ¬ Text.AllBlank text.toList)
    {fault : Json.Fault} (hread : readAll RowsBody.decoder text = .error fault) :
    rowsOf reading r = .error (.undecodable fault.message) := by
  rw [rowsOf, if_neg hstatus, htext]
  dsimp only
  rw [RowsBody.read, if_neg (mt Text.isBlankText_iff.1 hblank), hread]

/-- The text of a plain answer is what its bytes are in UTF-8. -/
lemma text?_of_plain {text : String} (hbody : r.body = some text.toUTF8)
    (hplain : IsPlain r.headers text) : r.text? reading = some text := by
  rw [Response.text?, hbody, Option.map_some, reading.read_plain hplain]

/-- Where an answer comes back, the result is what the answer says. -/
lemma run_execute_of_answer {σ : Type} {transport : Transport (StateM σ)} {c : Client}
    {plan : Query.Plan} {url : Url} (hurl : c.rowsUrl requested = .ok url)
    (hvalid : (c.rowsRequest url plan).isValid = true) {s t : σ}
    (hsent : (transport.send (c.rowsRequest url plan)).run s = (some r, t)) :
    (c.execute transport plan requested).run s = (resultOf transport.reading requested r, t) := by
  rw [execute, hurl]
  dsimp only
  rw [send, if_pos hvalid, run_bind_of hsent]
  rfl

/-- What the result of an execution owes to the answer that came back. -/
structure Answers (reading : TextReading) (requested : Option PointInTime) (r : Response)
    (result : Except EngineError QueryResult) : Prop where
  /-- There is a result exactly if the status reports success and the answer has a point in time
  and rows, and these are the result. -/
  ok_iff (rows : List Row) (token : PointInTime) : result = .ok ⟨rows, token⟩ ↔
    r.status / 100 = 2 ∧ TakenAt requested r token ∧ Holds reading r rows
  /-- Without success, the status and the text are reported whatever else came. -/
  failed (h : r.status / 100 ≠ 2) : result = .error (.status r.status ((r.text? reading).getD ""))
  /-- A readable header that names no point in time is reported, also where one was requested. -/
  malformed_token (h : r.status / 100 = 2) (raw : String)
    (hraw : r.Shows "ml-effective-timestamp" raw) (fault : Text.CountFault)
    (hread : PointInTime.read raw = .error fault) : result = .error (.undecodable
      ("invalid ML-Effective-Timestamp header '" ++ raw ++ "': " ++ fault.message))
  /-- Without a readable header, a point in time must have been requested. -/
  no_token (h : r.status / 100 = 2) (hraw : ∀ raw, ¬ r.Shows "ml-effective-timestamp" raw)
    (hrequested : requested = none) :
    result = .error (.undecodable "response has no ML-Effective-Timestamp header")
  /-- A body that is not blank must be read as rows, unless there is no content. -/
  malformed_body (h : r.status / 100 = 2) (token : PointInTime)
    (htoken : TakenAt requested r token) (hstatus : r.status ≠ 204) (text : String)
    (htext : r.text? reading = some text) (hblank : ¬ Text.AllBlank text.toList)
    (fault : Json.Fault) (hread : readAll RowsBody.decoder text = .error fault) :
    result = .error (.undecodable fault.message)
  /-- A body that broke off is no body. -/
  broken_off (h : r.status / 100 = 2) (token : PointInTime) (htoken : TakenAt requested r token)
    (hstatus : r.status ≠ 204) (htext : r.text? reading = none) : result = .error .transport

/-- **No row and no point in time is made up.**  When an answer to a plan comes back, the execution
gives a result exactly if the status reports success, a readable header names a point in time or
none is there and one was requested, and there is no content, a blank body or one that is read as
rows.  The result is that point in time and those rows, which are all the items of the array that
stands in the body; the point in time of a header is the number between its blanks.  Otherwise the
first thing that is wrong is reported, in the order of status, point in time and body.  How bytes
become text is the transport's to say, except that a plain body is the text that it is in UTF-8. -/
theorem answers_are_not_invented {σ : Type} (transport : Transport (StateM σ)) (c : Client)
    (plan : Query.Plan) (requested : Option PointInTime) {url : Url}
    (hurl : c.rowsUrl requested = .ok url) (hvalid : (c.rowsRequest url plan).isValid = true)
    {s t : σ} {r : Response}
    (hsent : (transport.send (c.rowsRequest url plan)).run s = (some r, t)) :
    ∃ result, (c.execute transport plan requested).run s = (result, t) ∧
      Answers transport.reading requested r result ∧
      (∀ raw token, r.Shows "ml-effective-timestamp" raw →
        (PointInTime.read raw = .ok token ↔ Text.Count.Writes raw token.value.toNat)) ∧
      (∀ rows token text v, result = .ok ⟨rows, token⟩ → r.status ≠ 204 →
        r.text? transport.reading = some text → ¬ Text.AllBlank text.toList →
        Json.read text = .ok v → RowsBody.rowsPart v = .array (rows.map Row.toJson)) ∧
      ∀ text token, r.body = some text.toUTF8 → IsPlain r.headers text → r.status / 100 = 2 →
        r.status ≠ 204 → TakenAt requested r token →
        (Text.AllBlank text.toList → result = .ok ⟨[], token⟩) ∧
        (¬ Text.AllBlank text.toList → ∀ b, readAll RowsBody.decoder text = .ok b →
          result = .ok ⟨b.rows, token⟩) := by
  refine ⟨_, run_execute_of_answer hurl hvalid hsent, ⟨fun rows token => resultOf_eq_ok_iff,
    resultOf_of_failed, ?_, ?_, ?_, ?_⟩, ?_, ?_, ?_⟩
  · intro h raw hraw fault hread
    exact resultOf_of_token_error h (tokenOf_of_malformed hraw hread)
  · intro h hraw hrequested
    apply resultOf_of_token_error h
    unfold tokenOf
    rw [header?_timestampHeader_eq_none_iff.2 hraw, hrequested]
    rfl
  · intro h token htoken hstatus text htext hblank fault hread
    exact resultOf_of_rows_error h htoken (rowsOf_of_malformed hstatus htext hblank hread)
  · intro h token htoken hstatus htext
    apply resultOf_of_rows_error h htoken
    rw [rowsOf, if_neg hstatus, htext]
  · intro raw token _
    exact PointInTime.read_eq_ok_iff_writes
  · intro rows token text v hresult hstatus htext hblank hv
    obtain ⟨-, -, hrows⟩ := resultOf_eq_ok_iff.1 hresult
    cases hrows with
    | noContent h => exact absurd h hstatus
    | blank _ htext' h =>
      cases htext.symm.trans htext'
      exact absurd h hblank
    | body _ htext' _ hread =>
      cases htext.symm.trans htext'
      exact RowsBody.rowsPart_eq hv hread
  · intro text token hbody hplain h hstatus htoken
    have htext : r.text? transport.reading = some text := text?_of_plain hbody hplain
    refine ⟨fun hblank => ?_, fun hblank b hread => ?_⟩
    · exact resultOf_eq_ok_iff.2 ⟨h, htoken, .blank hstatus htext hblank⟩
    · exact resultOf_eq_ok_iff.2 ⟨h, htoken, .body hstatus htext hblank hread⟩

/-- A client of a service at the port 8000. -/
def authorsClient : Client where
  base := ⟨"http", "", some "localhost", some 8000, .segments [""], none, none⟩
  apiKey := none

/-- The text of two rows. -/
def authorsText : String := "\x7b\"rows\":[\x7b\"ID\":6\x7d,\x7b\"ID\":7\x7d]\x7d"

/-- An answer with two rows that names the point in time `7`. -/
def authorsAnswer : Response where
  status := 200
  headers := [("content-type", "application/json; charset=utf-8".toUTF8),
    ("ml-effective-timestamp", ⟨#[55]⟩)]
  body := some authorsText.toUTF8

/-- A transport that counts requests and brings back that answer, and takes bodies for UTF-8. -/
def authorsTransport : Transport (StateM Nat) where
  send _ n := (some authorsAnswer, n + 1)
  reading := .utf8

/-- The point in time that the header names counts, although another one was requested, and the rows
are those of the body. -/
theorem authors_are_answered :
    (authorsClient.execute authorsTransport (.text "op.fromView('demo', 'authors')")
        (some ⟨5⟩)).run 0
      = (.ok ⟨[⟨[("ID", .ofInt 6)]⟩, ⟨[("ID", .ofInt 7)]⟩], ⟨7⟩⟩, 1) := by
  have hurl : authorsClient.rowsUrl (some ⟨5⟩) = .ok ⟨"http", "", some "localhost", some 8000,
      .segments ["v1", "rows"], some "timestamp=5", none⟩ := by
    decide +kernel
  have hraw : authorsAnswer.Shows "ml-effective-timestamp" "7" :=
    header?_timestampHeader_iff.1 (by decide +kernel)
  have hread : PointInTime.read "7" = .ok ⟨7⟩ := by decide +kernel
  have hplain : IsPlain authorsAnswer.headers authorsText := by
    refine ⟨?_, by decide +kernel⟩
    rintro h (_ | ⟨_, _ | ⟨_, ⟨⟩⟩⟩)
    · exact fun _ => by decide +kernel
    · exact fun h => absurd h (by decide +kernel)
  have hblank : ¬ Text.AllBlank authorsText.toList := by decide +kernel
  have hbody : readAll RowsBody.decoder authorsText
      = .ok ⟨[], [⟨[("ID", .ofInt 6)]⟩, ⟨[("ID", .ofInt 7)]⟩]⟩ := rfl
  obtain ⟨result, hrun, -, -, -, hplainly⟩ := answers_are_not_invented authorsTransport
    authorsClient (.text "op.fromView('demo', 'authors')") (some ⟨5⟩) hurl (by decide +kernel)
    (s := 0) rfl
  obtain ⟨-, hrows⟩ := hplainly authorsText ⟨7⟩ rfl hplain rfl (by decide) (.named hraw hread)
  rw [hrun, hrows hblank _ hbody]

end Client

end Remote

end Tidemark
