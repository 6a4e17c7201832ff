import Mathlib.Tactic.Common
import Tidemark.Remote.Client
import Tidemark.Storage.Directory

/-!
# How a backend reads a document

A query service and a directory each read a document in one of a few ways, listed with the answer
and the world that each leaves (`Client.Reading`, `Directory.Reading`).  From the lists it follows
that a backend reports a missing document for one reason only: the service answered with the status
404, or there is no file at the path.  Everything else that is no text is an error.
-/

namespace Tidemark

open Storage

variable {σ α : Type}

/-! ### Over a query service -/

namespace Remote.Client

/-- A missing document is told by its status alone, even if its body broke off. -/
lemma documentOf_eq_none_iff {reading : TextReading} {r : Response} :
    documentOf reading r = .ok none ↔ r.status = 404 := by
  unfold documentOf
  constructor
  · intro h
    by_contra hstatus
    rw [if_neg hstatus] at h
    split at h
    · split at h <;> cases h
    · cases h
  · intro h
    rw [if_pos h]

/-- A document is told by success, and its text is the whole body. -/
lemma documentOf_eq_some_iff {reading : TextReading} {r : Response} {text : String} :
    documentOf reading r = .ok (some text) ↔
      r.status / 100 = 2 ∧ r.text? reading = some text := by
  rw [← Response.isSuccess_iff]
  unfold documentOf
  constructor
  · intro h
    split at h
    · cases h
    · split at h
      next hsuccess =>
        split at h
        next htext =>
          obtain rfl := Option.some.inj (Except.ok.inj h)
          exact ⟨hsuccess, htext⟩
        next => cases h
      next => cases h
  · rintro ⟨hsuccess, htext⟩
    have hstatus : r.status ≠ 404 := by
      intro h
      rw [Response.isSuccess, h] at hsuccess
      exact absurd hsuccess (by decide)
    rw [if_neg hstatus, if_pos hsuccess, htext]

/-- The ways in which the reading of a document can go. -/
inductive Reading (transport : Transport (StateM σ)) (c : Client) (uri : String) (s : σ) :
    Except BackendError (Option String) × σ → Prop
  /-- There is no place for the document, and nothing is sent. -/
  | refused {e : BackendError} (hurl : c.documentsUrl ⟨uri, "", []⟩ = .error e) :
      Reading transport c uri s (.error e, s)
  /-- The request cannot be sent. -/
  | unsendable {url : Url} (hurl : c.documentsUrl ⟨uri, "", []⟩ = .ok url)
      (hvalid : (c.readRequest url).isValid = false) :
      Reading transport c uri s (.error .transport, s)
  /-- No answer comes back. -/
  | unanswered {url : Url} (hurl : c.documentsUrl ⟨uri, "", []⟩ = .ok url)
      (hvalid : (c.readRequest url).isValid = true) {t : σ}
      (hsent : (transport.send (c.readRequest url)).run s = (none, t)) :
      Reading transport c uri s (.error .transport, t)
  /-- An answer comes back. -/
  | answered {url : Url} (hurl : c.documentsUrl ⟨uri, "", []⟩ = .ok url)
      (hvalid : (c.readRequest url).isValid = true) {r : Response} {t : σ}
      (hsent : (transport.send (c.readRequest url)).run s = (some r, t)) :
      Reading transport c uri s (documentOf transport.reading r, t)

/-- Every reading goes in one of these ways. -/
theorem reading_readDocument (transport : Transport (StateM σ)) (c : Client) (uri : String)
    (s : σ) : Reading transport c uri s ((c.readDocument transport uri).run s) := by
  unfold readDocument
  cases hurl : c.documentsUrl ⟨uri, "", []⟩ with
  | error e => exact .refused hurl
  | ok url =>
    simp only [StateT.run_bind, send]
    cases hvalid : (c.readRequest url).isValid with
    | false => exact .unsendable hurl hvalid
    | true =>
      rcases hsent : (transport.send (c.readRequest url)).run s with ⟨answer, t⟩
      simp only [if_true, hsent]
      cases answer with
      | none => exact .unanswered hurl hvalid hsent
      | some r => exact .answered hurl hvalid hsent

/-- The request that reads a document is answered. -/
def Receives (transport : Transport (StateM σ)) (c : Client) (uri : String) (s : σ)
    (r : Response) : Prop :=
  ∃ url, c.documentsUrl ⟨uri, "", []⟩ = .ok url ∧ (c.readRequest url).isValid = true ∧
    ((transport.send (c.readRequest url)).run s).1 = some r

/-- A request that is refused, cannot be sent or is not answered gives no document and does not
report a missing one. -/
lemma Reading.answer_eq {transport : Transport (StateM σ)} {c : Client} {uri : String} {s : σ}
    {p : Except BackendError (Option String) × σ} (h : Reading transport c uri s p)
    {document : Option String} :
    p.1 = .ok document ↔
      ∃ r, Receives transport c uri s r ∧ documentOf transport.reading r = .ok document := by
  constructor
  · intro hok
    cases h with
    | refused hurl => cases hok
    | unsendable hurl hvalid => cases hok
    | unanswered hurl hvalid hsent => cases hok
    | answered hurl hvalid hsent => exact ⟨_, ⟨_, hurl, hvalid, by rw [hsent]⟩, hok⟩
  · rintro ⟨r, ⟨url, hurl, hvalid, hsent⟩, hok⟩
    cases h with
    | refused hurl' =>
      rw [hurl] at hurl'
      cases hurl'
    | unsendable hurl' hvalid' =>
      obtain rfl := Except.ok.inj (hurl.symm.trans hurl')
      rw [hvalid] at hvalid'
      cases hvalid'
    | unanswered hurl' _ hsent' =>
      obtain rfl := Except.ok.inj (hurl.symm.trans hurl')
      rw [hsent'] at hsent
      cases hsent
    | answered hurl' _ hsent' =>
      obtain rfl := Except.ok.inj (hurl.symm.trans hurl')
      rw [hsent'] at hsent
      obtain rfl := Option.some.inj hsent
      exact hok

/-- A document is missing exactly if the service answers with the status 404. -/
theorem readDocument_eq_none_iff (transport : Transport (StateM σ)) (c : Client) (uri : String)
    (s : σ) : ((c.readDocument transport uri).run s).1 = .ok none ↔
      ∃ r, Receives transport c uri s r ∧ r.status = 404 := by
  rw [(reading_readDocument transport c uri s).answer_eq]
  simp only [documentOf_eq_none_iff]

/-- A document is read exactly if the service answers with success and a whole body. -/
theorem readDocument_eq_some_iff (transport : Transport (StateM σ)) (c : Client) (uri : String)
    (s : σ) {text : String} : ((c.readDocument transport uri).run s).1 = .ok (some text) ↔
      ∃ r, Receives transport c uri s r ∧ r.status / 100 = 2 ∧
        r.text? transport.reading = some text := by
  rw [(reading_readDocument transport c uri s).answer_eq]
  simp only [documentOf_eq_some_iff]

/-- Reading changes nothing that is not changed by a `GET` request. -/
theorem view_readDocument {transport : Transport (StateM σ)} {view : σ → α}
    (hview : ∀ q t, q.method = "GET" → view ((transport.send q).run t).2 = view t) (c : Client)
    (uri : String) (s : σ) : view ((c.readDocument transport uri).run s).2 = view s := by
  have hreading := reading_readDocument transport c uri s
  generalize (c.readDocument transport uri).run s = p at hreading
  cases hreading with
  | refused hurl => rfl
  | unsendable hurl hvalid => rfl
  | @unanswered url hurl hvalid t hsent =>
    have hkeep := hview (c.readRequest url) s rfl
    rwa [hsent] at hkeep
  | @answered url hurl hvalid r t hsent =>
    have hkeep := hview (c.readRequest url) s rfl
    rwa [hsent] at hkeep

end Remote.Client

/-! ### In a directory -/

namespace Storage.Directory

/-- The bytes of a file are a text exactly if they are its bytes in UTF-8. -/
lemma decode_eq_ok_iff {bytes : ByteArray} {text : String} :
    decode bytes = .ok text ↔ bytes = text.toUTF8 := by
  unfold decode
  constructor
  · intro h
    split at h
    next s hs =>
      obtain rfl := Except.ok.inj h
      unfold String.fromUTF8? at hs
      split at hs
      · obtain rfl := Option.some.inj hs
        rfl
      · cases hs
    next => cases h
  · rintro rfl
    rw [Text.fromUTF8?_toUTF8]

/-- The ways in which the reading of a document can go. -/
inductive Reading (fs : FileSystem (StateM σ)) (root uri : String) (s : σ) :
    Except BackendError (Option String) × σ → Prop
  /-- The URI has no path, and nothing is read. -/
  | refused {e : BackendError} (hpath : resolve root uri = .error e) :
      Reading fs root uri s (.error e, s)
  /-- There is no file. -/
  | absent {p : DocumentPath} (hpath : resolve root uri = .ok p) {t : σ}
      (hread : (fs.read p).run s = (.error .notFound, t)) : Reading fs root uri s (.ok none, t)
  /-- The file cannot be read. -/
  | faulty {p : DocumentPath} (hpath : resolve root uri = .ok p) {fault : IoFault} {t : σ}
      (hread : (fs.read p).run s = (.error fault, t)) (hfault : fault ≠ .notFound) :
      Reading fs root uri s (.error (.io p.text fault), t)
  /-- The bytes of the file are no text. -/
  | garbled {p : DocumentPath} (hpath : resolve root uri = .ok p) {bytes : ByteArray} {t : σ}
      (hread : (fs.read p).run s = (.ok bytes, t)) {fault : IoFault}
      (htext : decode bytes = .error fault) :
      Reading fs root uri s (.error (.io p.text fault), t)
  /-- The file holds a text. -/
  | found {p : DocumentPath} (hpath : resolve root uri = .ok p) {bytes : ByteArray} {t : σ}
      (hread : (fs.read p).run s = (.ok bytes, t)) {text : String}
      (htext : decode bytes = .ok text) : Reading fs root uri s (.ok (some text), t)

/-- What a directory makes of the answer to the reading of a file. -/
def documentOf (p : DocumentPath) :
    Except IoFault ByteArray → Except BackendError (Option String)
  | .error .notFound => .ok none
  | .error fault => .error (.io p.text fault)
  | .ok bytes => ((decode bytes).mapError (.io p.text)).map some

/-- The file at a path is read once. -/
lemma run_readAt {fs : FileSystem (StateM σ)} {p : DocumentPath} {s t : σ}
    {answer : Except IoFault ByteArray} (hread : (fs.read p).run s = (answer, t)) :
    (readAt fs p).run s = (documentOf p answer, t) := by
  simp only [readAt, StateT.run_bind, hread, documentOf]
  rcases answer with fault | bytes
  · cases fault <;> rfl
  · rfl

/-- Every reading goes in one of these ways. -/
theorem reading_read (fs : FileSystem (StateM σ)) (root uri : String) (s : σ) :
    Reading fs root uri s (((backend fs root).read uri).run s) := by
  unfold backend
  dsimp only
  cases hpath : resolve root uri with
  | error e => exact .refused hpath
  | ok p =>
    rcases hread : (fs.read p).run s with ⟨answer, t⟩
    dsimp only
    rw [run_readAt hread]
    rcases answer with fault | bytes
    · by_cases hfault : fault = .notFound
      · subst hfault
        exact .absent hpath hread
      · have hdocument : documentOf p (.error fault) = .error (.io p.text fault) := by
          cases fault <;> first | rfl | exact absurd rfl hfault
        rw [hdocument]
        exact .faulty hpath hread hfault
    · cases htext : decode bytes with
      | error fault =>
        rw [documentOf, htext]
        exact .garbled hpath hread htext
      | ok text =>
        rw [documentOf, htext]
        exact .found hpath hread htext

/-- A document is missing exactly if there is no file at its path. -/
theorem read_eq_none_iff (fs : FileSystem (StateM σ)) (root uri : String) (s : σ) :
    (((backend fs root).read uri).run s).1 = .ok none ↔
      ∃ p, resolve root uri = .ok p ∧ ((fs.read p).run s).1 = .error .notFound := by
  have hreading := reading_read fs root uri s
  generalize ((backend fs root).read uri).run s = answer at hreading
  cases hreading with
  | refused hpath => simp [hpath]
  | absent hpath hread => simp [hpath, hread]
  | faulty hpath hread hfault => simp [hpath, hread, hfault]
  | garbled hpath hread htext => simp [hpath, hread]
  | found hpath hread htext => simp [hpath, hread]

/-- A document is read exactly if the file at its path holds its text in UTF-8. -/
theorem read_eq_some_iff (fs : FileSystem (StateM σ)) (root uri : String) (s : σ) {text : String} :
    (((backend fs root).read uri).run s).1 = .ok (some text) ↔
      ∃ p, resolve root uri = .ok p ∧ ((fs.read p).run s).1 = .ok text.toUTF8 := by
  have hreading := reading_read fs root uri s
  generalize ((backend fs root).read uri).run s = answer at hreading
  cases hreading with
  | refused hpath => simp [hpath]
  | absent hpath hread => simp [hpath, hread]
  | faulty hpath hread hfault => simp [hpath, hread]
  | @garbled p hpath bytes t hread fault htext =>
    have hbytes : bytes ≠ text.toUTF8 := by
      rw [← decode_eq_ok_iff.ne, htext]
      nofun
    simpa [hpath, hread] using hbytes
  | @found p hpath bytes t hread found htext =>
    have hbytes : found = text ↔ bytes = text.toUTF8 := by
      rw [← decode_eq_ok_iff, htext, Except.ok.injEq]
    simpa [hpath, hread] using hbytes

/-- Reading changes nothing that is not changed by the reading of a file. -/
theorem view_read {fs : FileSystem (StateM σ)} {view : σ → α}
    (hview : ∀ p t, view ((fs.read p).run t).2 = view t) (root uri : String) (s : σ) :
    view (((backend fs root).read uri).run s).2 = view s := by
  have hreading := reading_read fs root uri s
  generalize ((backend fs root).read uri).run s = answer at hreading
  cases hreading with
  | refused hpath => rfl
  | @absent p hpath t hread =>
    have hkeep := hview p s
    rwa [hread] at hkeep
  | @faulty p hpath fault t hread hfault =>
    have hkeep := hview p s
    rwa [hread] at hkeep
  | @garbled p hpath bytes t hread fault htext =>
    have hkeep := hview p s
    rwa [hread] at hkeep
  | @found p hpath bytes t hread text htext =>
    have hkeep := hview p s
    rwa [hread] at hkeep

end Storage.Directory

end Tidemark
