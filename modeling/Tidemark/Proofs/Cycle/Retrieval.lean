import Tidemark.Proofs.Cycle.Run
import Tidemark.Proofs.Remote.Answer
import Tidemark.Proofs.Storage.Reading
import Tidemark.Proofs.Watermark.Codec

/-!
# A damaged watermark is not a missing one

A store with a location asks its backend once and takes the answer in one of four ways (`Loading`).
It retrieves nothing only if the backend reports that there is no document, and a value only if the
text is a watermark of its column with that value (`Tracks`); any other answer is an error and
leaves the store as it was.  Over a query service and in a directory, the reasons for each answer
are known (`Reports`).  A constrained cycle that meets with such an error ends there, before it asks
the engine anything, and the error of a cycle is a corruption of the state exactly if there is a
document and it is no watermark of the column (`Damaged`).
-/

namespace Tidemark

open Storage

namespace Watermark

/-- A text is the watermark of a column with a value: a document that can be read, whose row count
is a count. -/
def Tracks (column text value : String) : Prop :=
  ∃ d n, Document.read text = .ok d ∧ Text.Count.readTrimmed d.rowCount = .ok n ∧
    d.constraintColumn = column ∧ d.lastValue = value

/-- A document was read, but it cannot be decoded or tracks another column. -/
def Damaged (column : String) (answer : Except BackendError (Option String)) : Prop :=
  ∃ text, answer = .ok (some text) ∧ ∀ w, ofText text = .ok w → w.column ≠ column

/-- A retrieval gives nothing exactly if a document is absent, and a value exactly if a text is
present that tracks the column with that value. -/
structure Reports (absent : Prop) (present : String → Prop) (column : String)
    (result : Except StoreError (Option String)) : Prop where
  none_iff : result = .ok none ↔ absent
  some_iff : ∀ value, result = .ok (some value) ↔ ∃ text, present text ∧ Tracks column text value

/-- The reasons for which a document is absent or present may be put in other words. -/
lemma Reports.congr {absent absent' : Prop} {present present' : String → Prop} {column : String}
    {result : Except StoreError (Option String)} (h : Reports absent present column result)
    (habsent : absent ↔ absent') (hpresent : ∀ text, present text ↔ present' text) :
    Reports absent' present' column result := by
  refine ⟨h.none_iff.trans habsent, ?_⟩
  intro value
  rw [h.some_iff]
  exact exists_congr fun text => and_congr_left' (hpresent text)

/-- What tracks a column decodes to a watermark of that column. -/
lemma tracks_iff {column text value : String} :
    Tracks column text value ↔
      ∃ w, ofText text = .ok w ∧ w.column = column ∧ w.value = some value := by
  constructor
  · rintro ⟨d, n, hread, hcount, hcolumn, rfl⟩
    exact ⟨_, ofText_eq_ok_iff.2 ⟨d, n, hread, hcount, rfl⟩, hcolumn, rfl⟩
  · rintro ⟨w, htext, hcolumn, hvalue⟩
    obtain ⟨d, n, hread, hcount, rfl⟩ := ofText_eq_ok_iff.1 htext
    exact ⟨d, n, hread, hcount, hcolumn, Option.some.inj hvalue⟩

/-- Every watermark that is decoded has a value. -/
lemma exists_value_of_ofText {text : String} {w : Watermark} (h : ofText text = .ok w) :
    ∃ value, w.value = some value := by
  obtain ⟨d, n, -, -, rfl⟩ := ofText_eq_ok_iff.1 h
  exact ⟨d.lastValue, rfl⟩

namespace Store

/-- The ways in which a store can take the answer of its backend. -/
inductive Loading (store : Store) (uri : String) :
    Except BackendError (Option String) → Except StoreError (Option String) × Store → Prop
  | unread (source : BackendError) :
      Loading store uri (.error source) (.error (.access uri source), store)
  | missing : Loading store uri (.ok none) (.ok none, store)
  | damaged {text : String} (h : ∀ w, ofText text = .ok w → w.column ≠ store.current.column)
      {e : StoreError} (he : e.isCorruption = true) :
      Loading store uri (.ok (some text)) (.error e, store)
  | loaded {text value : String} {w : Watermark} (htext : ofText text = .ok w)
      (hcolumn : w.column = store.current.column) (hvalue : w.value = some value) :
      Loading store uri (.ok (some text)) (.ok (some value), { store with current := w })

/-- What is not judged to be a watermark counts as a corruption. -/
lemma isCorruption_of_judge {column uri text : String} {e : StoreError}
    (h : judge column uri text = .error e) : e.isCorruption = true := by
  unfold judge at h
  split at h
  · cases h
    rfl
  · split at h
    · cases h
    · cases h
      rfl

/-- Every answer is taken in one of these ways. -/
theorem loading_load (store : Store) (uri : String) (answer : Except BackendError (Option String)) :
    Loading store uri answer (store.load uri answer) := by
  rcases answer with source | _ | text
  · exact .unread source
  · exact .missing
  · rw [load]
    cases hjudge : judge store.current.column uri text with
    | error e =>
      refine .damaged ?_ (isCorruption_of_judge hjudge)
      intro w htext hcolumn
      have hok : judge store.current.column uri text = .ok w :=
        judge_eq_ok_iff.2 ⟨htext, hcolumn⟩
      rw [hjudge] at hok
      cases hok
    | ok w =>
      obtain ⟨htext, hcolumn⟩ := judge_eq_ok_iff.1 hjudge
      obtain ⟨value, hvalue⟩ := exists_value_of_ofText htext
      dsimp only
      rw [hvalue]
      exact .loaded htext hcolumn hvalue

section Loading

variable {store : Store} {uri : String} {answer : Except BackendError (Option String)}
  {p : Except StoreError (Option String) × Store}

/-- A store reports what its backend has answered. -/
lemma Loading.reports (h : Loading store uri answer p) :
    Reports (answer = .ok none) (fun text => answer = .ok (some text)) store.current.column
      p.1 where
  none_iff := by cases h <;> simp
  some_iff value := by
    cases h with
    | unread source => simp
    | missing => simp
    | @damaged text h e he =>
      refine ⟨nofun, ?_⟩
      rintro ⟨text', htext, htracks⟩
      obtain rfl := Option.some.inj (Except.ok.inj htext)
      obtain ⟨w, hw, hcolumn, -⟩ := tracks_iff.1 htracks
      exact absurd hcolumn (h w hw)
    | @loaded text value' w htext hcolumn hvalue =>
      constructor
      · intro h
        obtain rfl := Option.some.inj (Except.ok.inj h)
        exact ⟨text, rfl, tracks_iff.2 ⟨w, htext, hcolumn, hvalue⟩⟩
      · rintro ⟨text', htext', htracks⟩
        obtain rfl := Option.some.inj (Except.ok.inj htext')
        obtain ⟨w', hw', -, hvalue'⟩ := tracks_iff.1 htracks
        obtain rfl := Except.ok.inj (htext.symm.trans hw')
        rw [← hvalue, hvalue']

/-- A store that reports an error is what it was. -/
lemma Loading.store_eq (h : Loading store uri answer p) {e : StoreError} (he : p.1 = .error e) :
    p.2 = store := by
  cases h with
  | unread source => rfl
  | missing => rfl
  | damaged h he => rfl
  | loaded htext hcolumn hvalue => cases he

/-- An error of a retrieval is a corruption exactly if the document is damaged. -/
lemma Loading.isCorruption_iff (h : Loading store uri answer p) {e : StoreError}
    (he : p.1 = .error e) : e.isCorruption = true ↔ Damaged store.current.column answer := by
  cases h with
  | unread source =>
    obtain rfl := Except.error.inj he
    simp [StoreError.isCorruption, Damaged]
  | missing => cases he
  | @damaged text h e' he' =>
    obtain rfl := Except.error.inj he
    exact ⟨fun _ => ⟨text, rfl, h⟩, fun _ => he'⟩
  | loaded htext hcolumn hvalue => cases he

/-- A document from which a store retrieves something is not damaged. -/
lemma Loading.not_damaged (h : Loading store uri answer p) {value : Option String}
    (hok : p.1 = .ok value) : ¬ Damaged store.current.column answer := by
  rintro ⟨text, hanswer, hdamaged⟩
  cases h with
  | unread source => cases hok
  | missing => cases hanswer
  | damaged h he => cases hok
  | @loaded text' value' w htext hcolumn hvalue =>
    obtain rfl := Option.some.inj (Except.ok.inj hanswer)
    exact hdamaged w htext hcolumn

end Loading

end Store

end Watermark

/-! ### In a cycle -/

namespace Cycle

variable {σ : Type} {env : Surroundings (StateM σ)} {c : Cycle} {s t : σ} {l : Location}
  {answer : Except BackendError (Option String)}

/-- A constrained job with a location starts with the reading of its document. -/
lemma retrieval_of_location (hk : c.rewriter.isConstrained = true)
    (hl : c.store.location = some l) (hread : (env.documents.read l.uri).run s = (answer, t)) :
    c.retrieval env s = ⟨((c.store.load l.uri answer).1, c.underway (c.store.load l.uri answer).2),
      t, [.read l.uri answer]⟩ := by
  rw [retrieval_of_isConstrained env hk, Watermark.Store.retrieve_traced_of_some env hl hread]

/-- A cycle that goes on has retrieved something. -/
lemma RowCall.load_eq_ok (hk : c.rewriter.isConstrained = true) (hl : c.store.location = some l)
    (hread : (env.documents.read l.uri).run s = (answer, t)) (q : RowCall env c s) :
    (c.store.load l.uri answer).1 = .ok q.previous := by
  have hretrieval := retrieval_of_location hk hl hread
  rw [q.retrieved] at hretrieval
  exact (congrArg (fun r => r.value.1) hretrieval).symm

/-- The ways in which a constrained cycle can end, by what its store makes of the document: the
cycle ends with the failure of the retrieval and does nothing else, or it goes on and meets with no
corruption. -/
inductive Ends (c : Cycle) (l : Location) (answer : Except BackendError (Option String)) :
    Traced.Run σ Outcome → Prop
  | unretrieved {e : Watermark.StoreError} (he : (c.store.load l.uri answer).1 = .error e)
      {d : Cycle} (hd : d.store = c.store) {t : σ} :
      Ends c l answer ⟨(.error (.store e), d), t, [.read l.uri answer]⟩
  | retrieved {value : Option String} (hok : (c.store.load l.uri answer).1 = .ok value)
      {r : Traced.Run σ Outcome} (hr : ∀ e, r.value.1 = .error e → e.isStateCorruption = false) :
      Ends c l answer r

/-- A mark that is refused is no corruption. -/
lemma Recording.isCorruption_eq {store : Watermark.Store} {mark : Mark} {r : Traced.Run σ Record}
    (h : Recording env store mark s r) {e : Watermark.StoreError} (he : r.value.1 = .error e) :
    e.isCorruption = false := by
  cases h with
  | kept hl => cases he
  | written hl hwrite => cases he
  | refused hl hwrite =>
    obtain rfl := Except.error.inj he
    rfl

/-- Every constrained cycle with a location ends in one of these ways. -/
theorem Exit.ends (hk : c.rewriter.isConstrained = true) (hl : c.store.location = some l)
    (hread : (env.documents.read l.uri).run s = (answer, t)) {r : Traced.Run σ Outcome}
    (h : Exit env c s r) : Ends c l answer r := by
  cases h with
  | @unretrieved e d t' xs h =>
    rw [retrieval_of_location hk hl hread] at h
    obtain ⟨hvalue, rfl, rfl⟩ := Traced.Run.mk.inj h
    obtain ⟨he, rfl⟩ := Prod.mk.inj hvalue
    refine .unretrieved he ?_
    rw [store_enter, store_underway, (c.store.loading_load l.uri answer).store_eq he]
  | rowsRefused q h =>
    refine .retrieved (q.load_eq_ok hk hl hread) ?_
    rintro _ ⟨rfl⟩
    rfl
  | drained q h hrows => exact .retrieved (q.load_eq_ok hk hl hread) nofun
  | unconstrained q h hrows hplan => exact .retrieved (q.load_eq_ok hk hl hread) nofun
  | maxRefused q h =>
    refine .retrieved (q.toRowCall.load_eq_ok hk hl hread) ?_
    rintro _ ⟨rfl⟩
    rfl
  | malformed q h hvalue =>
    refine .retrieved (q.toRowCall.load_eq_ok hk hl hread) ?_
    rintro _ ⟨rfl⟩
    rfl
  | unrecorded q h hvalue hrecord =>
    refine .retrieved (q.toRowCall.load_eq_ok hk hl hread) ?_
    rintro _ ⟨rfl⟩
    exact (q.recording_cases hrecord).isCorruption_eq rfl
  | recorded q h hvalue hrecord => exact .retrieved (q.toRowCall.load_eq_ok hk hl hread) nofun

/-- The state is corrupt exactly if the document is damaged. -/
lemma Ends.isStateCorruption_iff {r : Traced.Run σ Outcome} (h : Ends c l answer r)
    {e : CycleError} (he : r.value.1 = .error e) :
    e.isStateCorruption = true ↔ Watermark.Damaged c.store.current.column answer := by
  cases h with
  | @unretrieved e' he' d hd t =>
    obtain rfl := Except.error.inj he
    exact (c.store.loading_load l.uri answer).isCorruption_iff he'
  | retrieved hok hr =>
    rw [hr e he]
    exact ⟨nofun, fun h => absurd h ((c.store.loading_load l.uri answer).not_damaged hok)⟩

/-- **A damaged watermark is never taken for a missing one.**  For every store with a location and
every backend, a retrieval reads the document once and writes nothing.  It gives nothing exactly if
the backend has none, and a value exactly if the text tracks the column with that value; otherwise
it is an error and leaves the store as it was.  Over a query service a document is absent exactly
if the answer has the status 404, and in a directory exactly if there is no file at its path; the
one is only asked by `GET`, and in the other nothing but a file is read.  A constrained cycle that
meets with an error of the retrieval ends with it before it asks the engine anything, and the error
of a cycle is a corruption of the state exactly if the document is damaged. -/
theorem damage_is_never_absence (env : Surroundings (StateM σ)) (store : Watermark.Store)
    {l : Location} (hl : store.location = some l) (s : σ) :
    let answer := ((env.documents.read l.uri).run s).1
    let column := store.current.column
    let r := store.retrieve env.traced.documents s
    Watermark.Reports (answer = .ok none) (fun text => answer = .ok (some text)) column r.value.1 ∧
      (∀ e, r.value.1 = .error e → r.value.2 = store) ∧
      r.exchanges = [.read l.uri answer] ∧ r.world = ((env.documents.read l.uri).run s).2 ∧
      (∀ (transport : Remote.Transport (StateM σ)) (client : Remote.Client),
        env.documents = client.documents transport →
          Watermark.Reports (∃ a, client.Receives transport l.uri s a ∧ a.status = 404)
            (fun text => ∃ a, client.Receives transport l.uri s a ∧ a.status / 100 = 2 ∧
              a.text? transport.reading = some text) column r.value.1 ∧
          ∀ (view : σ → Option String),
            (∀ q t, q.method = "GET" → view ((transport.send q).run t).2 = view t) →
              view r.world = view s) ∧
      (∀ (fs : FileSystem (StateM σ)) (root : String), env.documents = Directory.backend fs root →
        Watermark.Reports
          (∃ p, Directory.resolve root l.uri = .ok p ∧ ((fs.read p).run s).1 = .error .notFound)
          (fun text => ∃ p, Directory.resolve root l.uri = .ok p ∧
            ((fs.read p).run s).1 = .ok text.toUTF8)
          column r.value.1 ∧
        ∀ (view : σ → Option String), (∀ p t, view ((fs.read p).run t).2 = view t) →
          view r.world = view s) ∧
      ∀ c : Cycle, c.store = store → c.rewriter.isConstrained = true →
        let p := tryPoll env.traced c s
        (∀ e, r.value.1 = .error e →
          p.value.1 = .error (.store e) ∧ p.value.2.store = store ∧
            p.exchanges = [.read l.uri answer] ∧ engineCalls p.exchanges = []) ∧
        ∀ e, p.value.1 = .error e →
          (e.isStateCorruption = true ↔ Watermark.Damaged column answer) := by
  rcases hread : (env.documents.read l.uri).run s with ⟨answer, t⟩
  have hloading := store.loading_load l.uri answer
  rw [Watermark.Store.retrieve_traced_of_some env hl hread]
  dsimp only
  refine ⟨hloading.reports, fun e he => hloading.store_eq he, rfl, rfl, ?_, ?_, ?_⟩
  · intro transport client henv
    rw [henv] at hread
    have hnone := Remote.Client.readDocument_eq_none_iff transport client l.uri s
    have hsome := @Remote.Client.readDocument_eq_some_iff _ transport client l.uri s
    rw [show (client.readDocument transport l.uri).run s = (answer, t) from hread] at hnone hsome
    refine ⟨hloading.reports.congr hnone fun text => hsome, ?_⟩
    intro view hview
    have hkeep := Remote.Client.view_readDocument hview client l.uri s
    rwa [show (client.readDocument transport l.uri).run s = (answer, t) from hread] at hkeep
  · intro fs root henv
    rw [henv] at hread
    have hnone := Directory.read_eq_none_iff fs root l.uri s
    have hsome := @Directory.read_eq_some_iff _ fs root l.uri s
    rw [hread] at hnone hsome
    refine ⟨hloading.reports.congr hnone fun text => hsome, ?_⟩
    intro view hview
    have hkeep := Directory.view_read hview root l.uri s
    rwa [hread] at hkeep
  · rintro c rfl hk
    have hends := (exit_tryPoll env c s).ends hk hl hread
    refine ⟨?_, fun e he => hends.isStateCorruption_iff he⟩
    intro e he
    generalize tryPoll env.traced c s = p at hends
    cases hends with
    | @unretrieved e' he' d hd t' =>
      obtain rfl := Except.error.inj (he.symm.trans he')
      exact ⟨rfl, hd, rfl, rfl⟩
    | retrieved hok hr =>
      rw [he] at hok
      cases hok

/-- The answer of a query service with one document, or without. -/
def documentAnswer : Option String → Remote.Response
  | none => ⟨404, [], none⟩
  | some text =>
    ⟨200, [("content-type", "application/json; charset=utf-8".toUTF8)], some text.toUTF8⟩

/-- A transport to such a service, whose bodies are in UTF-8. -/
def oneDocument : Remote.Transport (StateM (Option String)) where
  send _ document := (some (documentAnswer document), document)
  reading := .utf8

/-- Surroundings in which every plan gives one row, and the document is kept by a query service. -/
def overService : Surroundings (StateM (Option String)) :=
  { oneRow with documents := Remote.Client.authorsClient.documents oneDocument }

lemma receives_documentAnswer (document : Option String) :
    Remote.Client.authorsClient.Receives oneDocument "/authors.json" document
      (documentAnswer document) := by
  refine ⟨⟨"http", "", some "localhost", some 8000, .segments ["v1", "documents"],
    some "uri=%2Fauthors.json", none⟩, ?_, ?_, rfl⟩
  · decide +kernel
  · decide +kernel

/-- A query service that has no document answers with the status 404, and nothing is retrieved.  An
object without members is a document that was read, so a cycle reports a corruption and asks the
engine nothing. -/
theorem empty_object_is_reported :
    let poll := tryPoll overService.traced authors.start (some "\x7b\x7d")
    (authors.start.store.retrieve overService.traced.documents none).value.1 = .ok none ∧
      ∃ e, poll.value.1 = .error e ∧ e.isStateCorruption = true ∧
        engineCalls poll.exchanges = [] := by
  intro poll
  have hundecoded : ∀ w, Watermark.ofText "\x7b\x7d" ≠ .ok w := by
    intro w hw
    have hfault : (Watermark.ofText "\x7b\x7d").toOption = none := by decide +kernel
    rw [hw] at hfault
    cases hfault
  constructor
  · obtain ⟨-, -, -, -, hservice, -, -⟩ :=
      damage_is_never_absence overService authors.start.store rfl none
    obtain ⟨hreports, -⟩ := hservice _ _ rfl
    exact hreports.none_iff.2 ⟨_, receives_documentAnswer none, rfl⟩
  · obtain ⟨hreports, -, -, -, -, -, hpolls⟩ :=
      damage_is_never_absence overService authors.start.store rfl (some "\x7b\x7d")
    obtain ⟨hfails, hcorrupt⟩ := hpolls authors.start rfl rfl
    have hplain : Remote.IsPlain (documentAnswer (some "\x7b\x7d")).headers "\x7b\x7d" := by
      refine ⟨?_, by decide +kernel⟩
      rintro h (_ | ⟨_, ⟨⟩⟩) _
      decide +kernel
    have hread : ((overService.documents.read "/authors.json").run (some "\x7b\x7d")).1
        = .ok (some "\x7b\x7d") :=
      (Remote.Client.readDocument_eq_some_iff _ _ _ _).2
        ⟨_, receives_documentAnswer _, rfl, Remote.Client.text?_of_plain rfl hplain⟩
    cases hresult : (authors.start.store.retrieve overService.traced.documents
      (some "\x7b\x7d")).value.1 with
    | error e =>
      obtain ⟨hpoll, -, -, hcalls⟩ := hfails e hresult
      have hdamaged : Watermark.Damaged "ID"
          ((overService.documents.read "/authors.json").run (some "\x7b\x7d")).1 :=
        ⟨_, hread, fun w hw => absurd hw (hundecoded w)⟩
      exact ⟨_, hpoll, (hcorrupt _ hpoll).2 hdamaged, hcalls⟩
    | ok value =>
      cases value with
      | none => cases hread.symm.trans (hreports.none_iff.1 hresult)
      | some value =>
        obtain ⟨text, htext, htracks⟩ := (hreports.some_iff value).1 hresult
        obtain rfl := Option.some.inj (Except.ok.inj (hread.symm.trans htext))
        obtain ⟨w, hw, -⟩ := Watermark.tracks_iff.1 htracks
        exact absurd hw (hundecoded w)

end Cycle

end Tidemark
