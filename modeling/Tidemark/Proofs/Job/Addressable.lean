import Tidemark.Command.Run
import Tidemark.Proofs.Cycle.Retrieval
import Tidemark.Proofs.Storage.Components
import Tidemark.Proofs.Storage.Written

/-!
# Descriptions whose document can be addressed

A description that keeps its watermark below a directory is accepted if the URI of the document is
not blank.  The directory asks for something else: the URI must have segments, and no double dot
among them.  Neither of the two implies the other, and a job whose description is accepted may
never retrieve or record anything (`upward_uri_is_accepted`).  A URI that the directory takes is
never refused afterwards, whatever happens to the files; any other one is refused by every retrieval
and every recording, before a file is touched (`state_is_kept_iff_uri_has_segments`).
-/

namespace Tidemark

/-! ### Which errors a directory reports -/

namespace Storage.Directory

open FileTree (run_attempt)

variable {σ : Type} {root uri : String} {l : Location} {w : σ}

/-- A URI that is taken is not refused when its document is read: what fails is the file. -/
lemma exists_io_of_read (fs : FileSystem (StateM σ)) {p : DocumentPath}
    (hp : resolve root uri = .ok p) {e : BackendError}
    (h : (((backend fs root).read uri).run w).1 = .error e) :
    ∃ path fault, e = .io path fault := by
  have hreading := reading_read fs root uri w
  generalize ((backend fs root).read uri).run w = answer at h hreading
  cases hreading with
  | refused hpath =>
    rw [hp] at hpath
    cases hpath
  | absent hpath hread => cases h
  | faulty hpath hread hfault => exact ⟨_, _, (Except.error.inj h).symm⟩
  | garbled hpath hread htext => exact ⟨_, _, (Except.error.inj h).symm⟩
  | found hpath hread htext => cases h

/-- Whichever step of a write fails, it is a file operation that fails. -/
lemma exists_io_of_run_writeAt {fs : FileSystem (StateM σ)} {p : DocumentPath} {body : Json}
    {e : BackendError} (h : ((writeAt fs p body).run w).1 = .error e) :
    ∃ path fault, e = .io path fault := by
  unfold writeAt at h
  rcases hmake : (fs.makeDirectories p.parent).run w with ⟨made | ⟨⟩, w₁⟩
  · rw [run_bind_of (run_attempt hmake p.parent)] at h
    exact ⟨_, _, (Except.error.inj h).symm⟩
  rw [run_bind_of (run_attempt hmake p.parent)] at h
  rcases hfresh : fs.freshName.run w₁ with ⟨name, w₂⟩
  rcases hwrite : (fs.write (draft p name) (encode body)).run w₂ with ⟨written | ⟨⟩, w₃⟩
  · dsimp only [Except.mapError] at h
    rw [run_bind_of hfresh, run_bind_of (run_attempt hwrite _)] at h
    exact ⟨_, _, (Except.error.inj h).symm⟩
  dsimp only [Except.mapError] at h
  rw [run_bind_of hfresh, run_bind_of (run_attempt hwrite _)] at h
  dsimp only [Except.mapError, replace] at h
  rcases hrename : (fs.rename (draft p name) p).run w₃ with ⟨renamed | ⟨⟩, w₄⟩
  · rw [run_bind_of hrename] at h
    exact ⟨_, _, (Except.error.inj h).symm⟩
  · rw [run_bind_of hrename] at h
    cases h

/-- A URI that is taken is not refused when its document is written. -/
lemma exists_io_of_write (fs : FileSystem (StateM σ)) {p : DocumentPath}
    (hp : resolve root l.uri = .ok p) {body : Json} {e : BackendError}
    (h : (((backend fs root).write l body).run w).1 = .error e) :
    ∃ path fault, e = .io path fault := by
  rw [backend_write_of_resolve fs body hp] at h
  exact exists_io_of_run_writeAt h

/-- A URI that is refused is refused before a file is read. -/
lemma read_of_resolve_eq_error (fs : FileSystem (StateM σ)) {e : BackendError}
    (he : resolve root uri = .error e) : (backend fs root).read uri = pure (.error e) := by
  simp only [backend, he]

/-- A URI that is refused is refused before a file is written. -/
lemma write_of_resolve_eq_error (fs : FileSystem (StateM σ)) {e : BackendError}
    (he : resolve root l.uri = .error e) (body : Json) :
    (backend fs root).write l body = pure (.error e) := by
  simp only [backend, he]

/-- A directory takes a URI exactly if it has segments and no double dot among them. -/
lemma exists_resolve_eq_ok_iff :
    (∃ p, resolve root uri = .ok p) ↔ segments uri ≠ [] ∧ ".." ∉ segments uri := by
  constructor
  · rintro ⟨p, hp⟩
    by_contra hnot
    rw [not_and_or, not_not, not_not] at hnot
    rw [resolve_eq_error hnot] at hp
    cases hp
  · rintro ⟨hne, habove⟩
    exact ⟨_, resolve_eq_ok hne habove⟩

end Storage.Directory

/-! ### Which errors a store reports -/

namespace Watermark.Store

variable {σ : Type} {backend : Storage.DocumentBackend (StateM σ)} {store : Store}
  {l : Storage.Location} {w : σ}

/-- A store that has no access to its document was told so when it read it. -/
lemma read_eq_error_of_retrieve (hl : store.location = some l) {uri : String}
    {e : Storage.BackendError}
    (h : ((store.retrieve backend).run w).1.1 = .error (.access uri e)) :
    ((backend.read l.uri).run w).1 = .error e := by
  rcases hread : (backend.read l.uri).run w with ⟨answer, t⟩
  have hrun : (store.retrieve backend).run w = (store.load l.uri answer, t) := by
    unfold retrieve
    rw [hl]
    exact run_bind_of hread _
  rw [hrun] at h
  have hloading := store.loading_load l.uri answer
  generalize store.load l.uri answer = p at h hloading
  cases hloading with
  | unread source =>
    cases h
    rfl
  | missing => cases h
  | damaged hdamaged he =>
    cases h
    cases he
  | loaded htext hcolumn hvalue => cases h

/-- A store that has no access to its document was told so when it wrote it. -/
lemma exists_write_eq_error_of_record (hl : store.location = some l) {mark : Mark} {uri : String}
    {e : Storage.BackendError}
    (h : ((store.record backend mark).run w).1.1 = .error (.access uri e)) :
    ∃ body, ((backend.write l body).run w).1 = .error e := by
  unfold record at h
  rw [hl] at h
  simp only [toDocument_update] at h
  rcases hwrite : (backend.write l (document store.current.column mark).toJson).run w with
    ⟨source | ⟨⟩, t⟩
  · rw [run_bind_of hwrite] at h
    cases h
    exact ⟨_, congrArg Prod.fst hwrite⟩
  · rw [run_bind_of hwrite] at h
    cases h

/-- What cannot be read is not retrieved. -/
lemma retrieve_of_read_eq_error (hl : store.location = some l) {e : Storage.BackendError}
    (he : backend.read l.uri = pure (.error e)) :
    store.retrieve backend = pure (.error (.access l.uri e), store) := by
  unfold retrieve
  rw [hl]
  simp only [he]
  rfl

/-- What cannot be written is not recorded. -/
lemma record_of_write_eq_error (hl : store.location = some l) {e : Storage.BackendError}
    (he : ∀ body, backend.write l body = pure (.error e)) (mark : Mark) :
    store.record backend mark = pure (.error (.access l.uri e), store) := by
  unfold record
  rw [hl]
  simp only [toDocument_update, he]
  rfl

end Watermark.Store

/-! ### Accepted descriptions -/

namespace Job

/-- Where the watermark is kept is judged before a description is accepted. -/
lemma Config.check_state_of_read {text : String} {c : Config} (h : Config.read text = .ok c)
    {s : State} (hs : c.state = some s) : s.check = .ok () := by
  obtain ⟨_, -, h⟩ := exists_of_bind_eq_ok h
  obtain ⟨_, hcheck, hc⟩ := exists_of_bind_eq_ok h
  obtain rfl := Except.ok.inj hc
  obtain ⟨_, -, hcheck⟩ := exists_of_bind_eq_ok hcheck
  obtain ⟨_, -, hcheck⟩ := exists_of_bind_eq_ok hcheck
  obtain ⟨_, -, hcheck⟩ := exists_of_bind_eq_ok hcheck
  rwa [hs] at hcheck

/-- Where a watermark is kept has a URI that is not blank. -/
lemma State.not_allBlank_of_check {s : State} (h : s.check = .ok ()) :
    ¬ Text.AllBlank s.uri.toList := by
  unfold State.check at h
  split at h
  · cases h
  · next hblank => exact mt Text.isBlankText_iff.2 hblank

/-- A description with a directory keeps its documents there. -/
lemma documents_of_directory {m : Type → Type} [Monad m] (machine : Command.Machine m)
    (client : Remote.Client) {c : Config} {s : State} (hs : c.state = some s) {root : String}
    (hroot : s.directory = some root) :
    (Command.surroundings machine c client).documents
      = Storage.Directory.backend machine.fileSystem root := by
  simp only [Command.surroundings, hs, Option.bind_some, hroot]

/-- A description with a state section has a store with its location. -/
lemma Config.location_store {c : Config} {s : State} (hs : c.state = some s) :
    c.store.location = some s.location := by
  simp only [Config.store, hs, Watermark.Store.durable]

open Storage (segments)

/-- **The watermark of an accepted description is kept exactly if its URI has segments.**  For every
text that is accepted and names a directory: its URI is not blank, and the directory takes it
exactly if it has segments and no double dot among them.  A URI that is taken is never refused,
neither by a retrieval nor by a recording, whatever the store has seen before and whatever the files
are and do.  Any other URI is refused by each of them, and nothing is changed by that. -/
theorem state_is_kept_iff_uri_has_segments {text : String} {c : Config}
    (hread : Config.read text = .ok c) {s : State} (hs : c.state = some s) {root : String}
    (hroot : s.directory = some root) :
    ¬ Text.AllBlank s.uri.toList ∧
    ((∃ p, Storage.Directory.resolve root s.uri = .ok p) ↔
      segments s.uri ≠ [] ∧ ".." ∉ segments s.uri) ∧
    ∀ {σ : Type} (machine : Command.Machine (StateM σ)) (client : Remote.Client)
      (store : Watermark.Store), store.location = c.store.location →
      ∀ (mark : Mark) (w : σ),
        let documents := (Command.surroundings machine c client).documents
        let retrieved := (store.retrieve documents).run w
        let recorded := (store.record documents mark).run w
        (segments s.uri ≠ [] ∧ ".." ∉ segments s.uri → ∀ uri uri',
          retrieved.1.1 ≠ .error (.access uri (.invalidUri uri')) ∧
            recorded.1.1 ≠ .error (.access uri (.invalidUri uri'))) ∧
        (segments s.uri = [] ∨ ".." ∈ segments s.uri →
          retrieved = ((.error (.access s.uri (.invalidUri s.uri)), store), w) ∧
            recorded = ((.error (.access s.uri (.invalidUri s.uri)), store), w)) := by
  refine ⟨State.not_allBlank_of_check (Config.check_state_of_read hread hs),
    Storage.Directory.exists_resolve_eq_ok_iff, ?_⟩
  intro σ machine client store hstore mark w
  have hl : store.location = some s.location := hstore.trans (Config.location_store hs)
  rw [documents_of_directory machine client hs hroot]
  refine ⟨?_, ?_⟩
  · rintro ⟨hne, habove⟩ uri uri'
    have hp : Storage.Directory.resolve root s.location.uri = .ok ⟨root, segments s.uri⟩ :=
      Storage.Directory.resolve_eq_ok hne habove
    constructor
    · intro h
      have hrefused := Watermark.Store.read_eq_error_of_retrieve hl h
      obtain ⟨path, fault, hio⟩ :=
        Storage.Directory.exists_io_of_read machine.fileSystem hp hrefused
      cases hio
    · intro h
      obtain ⟨body, hrefused⟩ := Watermark.Store.exists_write_eq_error_of_record hl h
      obtain ⟨path, fault, hio⟩ :=
        Storage.Directory.exists_io_of_write machine.fileSystem hp hrefused
      cases hio
  · intro h
    have he : Storage.Directory.resolve root s.location.uri = .error (.invalidUri s.uri) :=
      Storage.Directory.resolve_eq_error h
    have hreads := Storage.Directory.read_of_resolve_eq_error machine.fileSystem he
    have hwrites := Storage.Directory.write_of_resolve_eq_error machine.fileSystem he
    rw [Watermark.Store.retrieve_of_read_eq_error hl hreads,
      Watermark.Store.record_of_write_eq_error hl hwrites mark]
    exact ⟨rfl, rfl⟩

/-- A description that keeps its watermark below a directory, at a URI. -/
def authorsText (uri : String) : String :=
  "[query]\ndsl = \"op.fromView('demo', 'authors')\"\nconstraint_column = \"ID\"\n"
    ++ "[engine]\nurl = \"http://localhost:8000\"\n"
    ++ "[state]\nuri = \"" ++ uri ++ "\"\ndirectory = \"state\"\n"

/-- What that text describes. -/
def authorsConfig (uri : String) : Config :=
  { question :=
      { dsl := some "op.fromView('demo', 'authors')", constraintColumn := some "ID" }
    service := { url := "http://localhost:8000" }
    state := some { uri := uri, directory := some "state" } }

/-- A URI with repeated slashes and a single dot is kept. -/
theorem roundabout_uri_is_kept :
    let c := authorsConfig "//jobs/./authors.json"
    Config.read (authorsText "//jobs/./authors.json") = .ok c ∧
      (∃ p, Storage.Directory.resolve "state" "//jobs/./authors.json" = .ok p) ∧
      ∀ {σ : Type} (machine : Command.Machine (StateM σ)) (client : Remote.Client) (w : σ) uri uri',
        ((c.store.retrieve (Command.surroundings machine c client).documents).run w).1.1
          ≠ .error (.access uri (.invalidUri uri')) := by
  intro c
  have hread : Config.read (authorsText "//jobs/./authors.json") = .ok c :=
    eq_ok_of_toOption (by decide +kernel)
  have hsegments : segments "//jobs/./authors.json" ≠ [] ∧
      ".." ∉ segments "//jobs/./authors.json" := by
    decide +kernel
  obtain ⟨-, hresolve, hkept⟩ := state_is_kept_iff_uri_has_segments hread rfl rfl
  refine ⟨hread, hresolve.2 hsegments, ?_⟩
  intro σ machine client w uri uri'
  have hplain := hkept machine client c.store rfl ⟨"6", 1, ⟨2024, 5, 1, 0, 0, 0, 0⟩⟩ w
  exact (hplain.1 hsegments uri uri').1

/-- A URI that leads upwards is accepted, but the directory does not take it, and nothing is ever
retrieved. -/
theorem upward_uri_is_accepted :
    let c := authorsConfig "/jobs/../authors.json"
    Config.read (authorsText "/jobs/../authors.json") = .ok c ∧
      Storage.Directory.resolve "state" "/jobs/../authors.json"
        = .error (.invalidUri "/jobs/../authors.json") ∧
      ∀ {σ : Type} (machine : Command.Machine (StateM σ)) (client : Remote.Client) (w : σ),
        (c.store.retrieve (Command.surroundings machine c client).documents).run w
          = ((.error (.access "/jobs/../authors.json" (.invalidUri "/jobs/../authors.json")),
            c.store), w) := by
  intro c
  have hread : Config.read (authorsText "/jobs/../authors.json") = .ok c :=
    eq_ok_of_toOption (by decide +kernel)
  have hupward : Storage.Directory.resolve "state" "/jobs/../authors.json"
      = .error (.invalidUri "/jobs/../authors.json") := by
    decide +kernel
  refine ⟨hread, hupward, ?_⟩
  intro σ machine client w
  have hl : c.store.location = some ⟨"/jobs/../authors.json", "", []⟩ := rfl
  have hrefused := Storage.Directory.read_of_resolve_eq_error machine.fileSystem hupward
  rw [documents_of_directory machine client rfl rfl,
    Watermark.Store.retrieve_of_read_eq_error hl hrefused]
  rfl

end Job

end Tidemark
