import Tidemark.Proofs.Storage.Watched
import Tidemark.Proofs.Storage.Written

/-!
# A document is replaced in one step

Whoever looks while a document is written, and whatever is left when the writing stops, finds the
tree in one of two stages.  In the first one (`Filling`) directories were made and something stands
at the draft; in the second one (`Replaced`) the whole document stands at its path.  The step from
the one to the other is the renaming of the draft, which is the only operation that touches the path
of the document.
-/

namespace Tidemark.Storage.FileTree

open Directory

/-- Up to the renaming of the draft, a tree is alike at every path that is neither on the way to the
directory of the document nor at the draft or below it. -/
def Filling (parent : List String) (draft : String) (t w : FileTree) : Prop :=
  ∀ names, ¬ names <+: parent → ¬ parent ++ [draft] <+: names → Alike names t w

/-- From the renaming of the draft on, the file stands at its path, and a tree is alike at every
path that is not at the file or below it either. -/
def Replaced (parent : List String) (name draft : String) (content : ByteArray) (t w : FileTree) :
    Prop :=
  find (parent ++ [name]) w = .ok (.file content) ∧
    ∀ names, ¬ names <+: parent → ¬ parent ++ [draft] <+: names → ¬ parent ++ [name] <+: names →
      Alike names t w

section Stages

variable {parent : List String} {name draft : String} {content part : ByteArray}
  {t u w : FileTree}

namespace Filling

lemma refl (parent : List String) (draft : String) (t : FileTree) : Filling parent draft t t :=
  fun names _ _ => .refl names t

/-- Directories are made on the way to the directory of the document. -/
lemma of_makeDirectories {ds : List String} (h : ds <+: parent) (draft : String) (t : FileTree) :
    Filling parent draft t (makeDirectories ds t).2 :=
  fun _ hp _ => alike_makeDirectories ds t fun hds => hp (hds.trans h)

/-- The draft may be changed. -/
lemma update {f : Option FileTree → Except IoFault (Option FileTree)}
    (h : Filling parent draft t u) (hu : update f (parent ++ [draft]) u = .ok w) :
    Filling parent draft t w :=
  fun names hp hd => (h names hp hd).trans (.of_update hu (not_prefix_concat hp hd) hd)

/-- The draft may be renamed. -/
lemma rename (h : Filling parent draft t u) (hne : draft ≠ name)
    (hcontent : find (parent ++ [draft]) u = .ok (.file content))
    (hw : rename (parent ++ [draft]) (parent ++ [name]) u = .ok w) :
    Replaced parent name draft content t w := by
  obtain ⟨content', v, hfind, hwrite, hremove⟩ := exists_of_rename hw (concat_ne parent hne)
  rw [hcontent] at hfind
  obtain rfl : content = content' := by simpa using hfind
  refine ⟨?_, ?_⟩
  · rw [ find_update_of_not_prefix hremove (siblings_apart parent hne.symm)
      (siblings_apart parent hne)]
    exact find_of_update (fun _ _ hf => eq_some_of_place hf) hwrite
  · intro names hp hd hn
    exact (h names hp hd).trans <| (Alike.of_update hwrite (not_prefix_concat hp hn) hn).trans
      (.of_update hremove (not_prefix_concat hp hd) hd)

end Filling

end Stages

/-! ### The stages of a write -/

section Write

variable {above : List String} {fresh root : String} {l : Location} {body : Json} {p : DocumentPath}
  {t w : FileTree}

/-- The trees of a write, from its first operation to its last. -/
def Stage (above : List String) (fresh : String) (p : DocumentPath) (body : Json)
    (t w : FileTree) : Prop :=
  Filling (parentNames above p) (draftName p fresh) t w ∨
    Replaced (parentNames above p) p.name (draftName p fresh) (encode body) t w

lemma Filling.stage (h : Filling (parentNames above p) (draftName p fresh) t w) :
    Stage above fresh p body t w :=
  .inl h

/-- Directories are made first. -/
lemma keeps_makeDirectories (above : List String) (fresh : String) (p : DocumentPath) (body : Json)
    (t : FileTree) :
    Keeps (· = t) (Stage above fresh p body t) ((watched above fresh).makeDirectories p.parent)
      (Ends (Filling (parentNames above p) (draftName p fresh) t)
        (Filling (parentNames above p) (draftName p fresh) t)) :=
  .makeDirectories (fun _ => Filling.stage) fun _ hds => .of_makeDirectories hds _ t

/-- Then the draft is written, and holds the whole document if that succeeds. -/
lemma keeps_write (above : List String) (fresh : String) (p : DocumentPath) (body : Json)
    (t : FileTree) :
    Keeps (Filling (parentNames above p) (draftName p fresh) t) (Stage above fresh p body t)
      ((watched above fresh).write (draft p fresh) (encode body))
      (Ends (fun w => Filling (parentNames above p) (draftName p fresh) t w ∧
          find (parentNames above p ++ [draftName p fresh]) w = .ok (.file (encode body)))
        (Filling (parentNames above p) (draftName p fresh) t)) := by
  dsimp only [watched]
  refine .operation (fun _ => Filling.stage) (fun _ hu => hu) ?_ ?_
  · rintro u w hu ⟨part, hw⟩
    rw [names_draft] at hw
    exact hu.update hw
  · intro u w hu hw
    rw [names_draft] at hw
    exact ⟨hu.update hw, find_of_update (fun _ _ hf => eq_some_of_place hf) hw⟩

/-- Then the draft is renamed; a draft that cannot be renamed is removed. -/
lemma keeps_replace (above : List String) (fresh : String) (hp : resolve root l.uri = .ok p)
    (body : Json) (t : FileTree) :
    Keeps (fun w => Filling (parentNames above p) (draftName p fresh) t w ∧
        find (parentNames above p ++ [draftName p fresh]) w = .ok (.file (encode body)))
      (Stage above fresh p body t) (replace (watched above fresh) p (draft p fresh))
      (fun _ => Stage above fresh p body t) := by
  have hname : draftName p fresh ≠ p.name := DocumentPath.draft_name_ne p.name fresh
  have hrename : Keeps (fun w => Filling (parentNames above p) (draftName p fresh) t w ∧
        find (parentNames above p ++ [draftName p fresh]) w = .ok (.file (encode body)))
      (Stage above fresh p body t) ((watched above fresh).rename (draft p fresh) p)
      (Ends (Replaced (parentNames above p) p.name (draftName p fresh) (encode body) t)
        (Filling (parentNames above p) (draftName p fresh) t)) := by
    dsimp only [watched]
    refine .operation (fun _ => Filling.stage) (fun _ hu => hu.1) (fun _ _ _ => False.elim) ?_
    rintro u w ⟨hu, hcontent⟩ hw
    rw [names_draft, names_target above hp] at hw
    exact hu.rename hname hcontent hw
  have hremove : Keeps (Filling (parentNames above p) (draftName p fresh) t)
      (Stage above fresh p body t) ((watched above fresh).remove (draft p fresh))
      (Ends (Filling (parentNames above p) (draftName p fresh) t)
        (Filling (parentNames above p) (draftName p fresh) t)) := by
    dsimp only [watched]
    refine .operation (fun _ => Filling.stage) (fun _ hu => hu) (fun _ _ _ => False.elim) ?_
    intro u w hu hw
    rw [names_draft] at hw
    exact hu.update hw
  refine hrename.bind ?_ ?_
  · rintro (fault | ⟨⟩) w hw
    · exact .inl hw
    · exact .inr hw
  · rintro (fault | ⟨⟩)
    · refine hremove.bind ?_ fun r => .pure ?_
      · rintro (fault | ⟨⟩) w hw <;> exact .inl hw
      · intro w hw
        cases r <;> exact .inl hw
    · exact .pure fun w hw => .inr hw

/-- A write is only seen in its stages, and it leaves one of them. -/
theorem keeps_writeAt (above : List String) (fresh : String) (hp : resolve root l.uri = .ok p)
    (body : Json) (t : FileTree) :
    Keeps (· = t) (Stage above fresh p body t) (writeAt (watched above fresh) p body)
      (fun _ => Stage above fresh p body t) := by
  refine .writeAt rfl (keeps_makeDirectories above fresh p body t)
    (keeps_write above fresh p body t) (keeps_replace above fresh hp body t)
    (fun _ => Filling.stage) (fun _ h => h.1.stage) (fun _ => Filling.stage) ?_ ?_
  · exact fun _ _ => Filling.stage
  · exact fun _ _ => Filling.stage

/-! ### What readers find -/

/-- In every stage the document reads as before, or as the one that is written. -/
lemma Stage.document (h : Stage above fresh p body t w) (hl : resolve root l.uri = .ok p)
    {uri : String} (hp : resolve root uri = .ok p) :
    StillReads above root uri t w ∨ documentIn above root uri w = .ok (some body.pretty) := by
  rcases h with h | ⟨hfind, -⟩
  · left
    have hname : draftName p fresh ≠ p.name := DocumentPath.draft_name_ne p.name fresh
    have halike := h _ (child_not_above _ p.name) (siblings_apart _ hname)
    rw [← names_target above hl] at halike
    exact stillReads_of_alike hp halike
  · rw [← names_target above hl] at hfind
    cases hrefusal : refusal? [p] with
    | some fault => exact .inl (.inl (documentIn_of_refused hp hrefusal))
    | none => exact .inr (documentIn_of_find hp hrefusal hfind)

/-- In every stage the documents beside it read as before. -/
lemma Stage.other (h : Stage above fresh p body t w) (hl : resolve root l.uri = .ok p)
    {uri : String} {q : DocumentPath} (hq : resolve root uri = .ok q) (hs : ¬ q.names <+: p.names)
    (he : ¬ p.names <+: q.names) (hd : ¬ (draft p fresh).names <+: q.names) :
    StillReads above root uri t w := by
  rw [← List.prefix_append_right_inj above] at hs he hd
  rw [names_draft] at hd
  rw [names_target above hl] at hs he
  have hparent : ¬ above ++ q.names <+: parentNames above p :=
    fun hbelow => hs (hbelow.trans (List.prefix_append _ _))
  rcases h with h | ⟨-, h⟩
  · exact stillReads_of_alike hq (h _ hparent hd)
  · exact stillReads_of_alike hq (h _ hparent hd he)

end Write

/-- **A reader finds the old document or the new one.**  A document is written at an accepted URI,
whatever the tree is and wherever in it the root of the documents lies; each operation may fail,
directories are made one after another, and the draft may hold any bytes while it is filled.  At
every point at which somebody looks or the writing stops, each URI with the same path reads as it
did before the write or as the whole new document.  A URI beside the document reads as before, if
its path is not at the draft or below it.  In both cases a URI that read as missing before may be
reported now as one with a name that is too long, if it has one.  A write over the tree itself is
one of these ways. -/
theorem readers_find_old_or_new {above : List String} {fresh root : String} {l : Location}
    {body : Json} {p : DocumentPath} (hp : resolve root l.uri = .ok p) {t : FileTree}
    {c : Course (Except BackendError Unit)}
    (hc : (backend (watched above fresh) root).write l body t c) :
    Realizes ((backend (fileSystemBelow above fresh) root).write l body)
        ((backend (watched above fresh) root).write l body) ∧
      ∀ w ∈ t :: c.tree :: c.seen,
        (∀ uri, resolve root uri = .ok p →
          StillReads above root uri t w ∨ documentIn above root uri w = .ok (some body.pretty)) ∧
        ∀ uri q, resolve root uri = .ok q → ¬ q.names <+: p.names → ¬ p.names <+: q.names →
          ¬ (draft p fresh).names <+: q.names → StillReads above root uri t w := by
  rw [backend_write_of_resolve _ _ hp] at hc
  rw [backend_write_of_resolve _ _ hp, backend_write_of_resolve _ _ hp]
  refine ⟨realizes_writeAt above fresh p body, ?_⟩
  obtain ⟨hseen, hend⟩ := keeps_writeAt above fresh hp body t t c rfl hc
  intro w hw
  have hstage : Stage above fresh p body t w := by
    rcases List.mem_cons.1 hw with rfl | hw
    · exact (Filling.refl _ _ w).stage
    · rcases List.mem_cons.1 hw with rfl | hw
      · exact hend
      · exact hseen w hw
  exact ⟨fun uri huri => hstage.document hp huri,
    fun uri q hq hs he hd => hstage.other hp hq hs he hd⟩

/-! ### A document of a job -/

/-- The tree in which a directory was made for the documents of jobs. -/
def madeTree : FileTree :=
  .directory [("jobs", .directory [])]

/-- The tree in which the draft of the document of a job holds some bytes. -/
def draftTree (part : ByteArray) : FileTree :=
  .directory [("jobs", .directory [(".a.json.0.tmp", .file part)])]

/-- A write of the document of a job in an empty tree can be seen while its draft holds any bytes,
and it can succeed. -/
lemma exists_course_draftTree (body : Json) (part : ByteArray) :
    ∃ c, (backend (watched [] "0") "/var").write ⟨"/jobs/a.json", "", []⟩ body empty c ∧
      c.value = .ok () ∧ draftTree part ∈ c.seen := by
  let p : DocumentPath := ⟨"/var", ["jobs", "a.json"]⟩
  have hmake : (watched [] "0").makeDirectories p.parent empty ⟨.ok (), madeTree, []⟩ :=
    ⟨nofun, rfl⟩
  have hwrite : (watched [] "0").write (draft p "0") (encode body) madeTree
      ⟨.ok (), draftTree (encode body), [draftTree part]⟩ := by
    refine ⟨?_, rfl⟩
    intro w hw
    obtain rfl := List.mem_singleton.1 hw
    exact .inr ⟨part, rfl⟩
  have hrename : (watched [] "0").rename (draft p "0") p (draftTree (encode body))
      ⟨.ok (), jobTree body, []⟩ :=
    ⟨nofun, rfl⟩
  have hcourse : writeAt (watched [] "0") p body empty ⟨.ok (), jobTree body,
      [madeTree, madeTree, madeTree, draftTree part, draftTree (encode body),
        draftTree (encode body), jobTree body]⟩ :=
    ⟨_, _, ⟨_, _, hmake, rfl, rfl⟩,
      ⟨_, _, rfl, ⟨_, _, ⟨_, _, hwrite, rfl, rfl⟩, ⟨_, _, hrename, rfl, rfl⟩, rfl⟩, rfl⟩, rfl⟩
  exact ⟨_, hcourse, rfl, by simp⟩

/-- While the draft of a document is filled, the document is found as it was or as a whole. -/
theorem document_of_half_written_draft :
    let body := Json.object [("lastValue", .string "1")]
    ∃ c, (backend (watched [] "0") "/var").write ⟨"/jobs/a.json", "", []⟩ body empty c ∧
      c.value = .ok () ∧ draftTree "\x7b".toUTF8 ∈ c.seen ∧
      resolve "/var" "/jobs/a.json" = .ok ⟨"/var", ["jobs", "a.json"]⟩ ∧
      (StillReads [] "/var" "/jobs/a.json" empty (draftTree "\x7b".toUTF8) ∨
        documentIn [] "/var" "/jobs/a.json" (draftTree "\x7b".toUTF8) = .ok (some body.pretty)) ∧
      StillReads [] "/var" "/jobs/b.json" empty (draftTree "\x7b".toUTF8) := by
  intro body
  obtain ⟨c, hc, hvalue, hseen⟩ := exists_course_draftTree body "\x7b".toUTF8
  obtain ⟨-, hreads⟩ := readers_find_old_or_new (p := ⟨"/var", ["jobs", "a.json"]⟩) rfl hc
  obtain ⟨hsame, hother⟩ := hreads (draftTree "\x7b".toUTF8)
    (List.mem_cons_of_mem _ (List.mem_cons_of_mem _ hseen))
  refine ⟨c, hc, hvalue, hseen, rfl, hsame _ rfl, ?_⟩
  exact hother "/jobs/b.json" ⟨"/var", ["jobs", "b.json"]⟩ rfl (by decide) (by decide) (by decide)

/-- A write of a document whose name is too long makes a directory and fails. -/
lemma exists_course_madeTree (body : Json) :
    ∃ c, (backend (watched [] "0") "/var").write ⟨overlongUri, "", []⟩ body empty c ∧
      madeTree ∈ c.seen := by
  let c : Course (Except BackendError Unit) :=
    ⟨.error (.io (draft overlongPath "0").text .nameTooLong), madeTree,
      [madeTree, madeTree, madeTree, madeTree, madeTree]⟩
  have hmake : (watched [] "0").makeDirectories overlongPath.parent empty ⟨.ok (), madeTree, []⟩ :=
    ⟨nofun, rfl⟩
  have hwrite : (watched [] "0").write (draft overlongPath "0") (encode body) madeTree
      ⟨.error .nameTooLong, madeTree, []⟩ :=
    ⟨nofun, .inl rfl⟩
  have hcourse : writeAt (watched [] "0") overlongPath body empty c :=
    ⟨_, _, ⟨_, _, hmake, rfl, rfl⟩,
      ⟨_, _, rfl, ⟨_, _, ⟨_, _, hwrite, rfl, rfl⟩, rfl, rfl⟩, rfl⟩, rfl⟩
  have hpath : resolve "/var" (⟨overlongUri, "", []⟩ : Location).uri = .ok overlongPath :=
    resolve_overlong
  refine ⟨c, ?_, List.mem_cons_self⟩
  rw [backend_write_of_resolve _ _ hpath]
  exact hcourse

/-- A document with a name that is too long reads as missing before it is written, and then its name
is reported, whether it is the one that is written or another one.  While a document is written,
one below its draft reads as missing before, and then the draft is reported. -/
theorem missing_documents_become_errors :
    let body := Json.object [("lastValue", .string "1")]
    let below := "/jobs/.a.json.0.tmp/b.json"
    let p : DocumentPath := ⟨"/var", ["jobs", "a.json"]⟩
    (∃ c w, (backend (watched [] "0") "/var").write ⟨overlongUri, "", []⟩ body empty c ∧
      w ∈ c.seen ∧ documentIn [] "/var" overlongUri empty = .ok none ∧
        documentIn [] "/var" overlongUri w = .error (.io overlongPath.text .nameTooLong)) ∧
      ∃ c w, (backend (watched [] "0") "/var").write ⟨"/jobs/a.json", "", []⟩ body empty c ∧
        w ∈ c.seen ∧ resolve "/var" "/jobs/a.json" = .ok p ∧
        (∃ q, resolve "/var" overlongUri = .ok q ∧ ¬ q.names <+: p.names ∧ ¬ p.names <+: q.names ∧
          q.names ≠ (draft p "0").names ∧ documentIn [] "/var" overlongUri empty = .ok none ∧
          documentIn [] "/var" overlongUri w = .error (.io q.text .nameTooLong)) ∧
        ∃ q, resolve "/var" below = .ok q ∧ ¬ q.names <+: p.names ∧ ¬ p.names <+: q.names ∧
          q.names ≠ (draft p "0").names ∧ documentIn [] "/var" below empty = .ok none ∧
          documentIn [] "/var" below w = .error (.io q.text .notADirectory) := by
  intro body below p
  obtain ⟨c, hc, hmade⟩ := exists_course_madeTree body
  obtain ⟨d, hd, -, hseen⟩ := exists_course_draftTree body "\x7b".toUTF8
  have hempty : documentIn [] "/var" overlongUri empty = .ok none :=
    documentIn_overlong_of_missing rfl
  refine ⟨⟨c, madeTree, hc, hmade, hempty, documentIn_overlong_of_directory rfl⟩,
    d, draftTree "\x7b".toUTF8, hd, hseen, rfl, ?_, ?_⟩
  · have hne : ∀ name, isTooLong name = false → overlongName ≠ name := by
      rintro name hname rfl
      rw [isTooLong_overlongName] at hname
      cases hname
    refine ⟨overlongPath, resolve_overlong, ?_, ?_, ?_, hempty,
      documentIn_overlong_of_directory rfl⟩
    · simp [overlongPath, p, hne "a.json" (by decide)]
    · simp [overlongPath, p, (hne "a.json" (by decide)).symm]
    · simp [overlongPath, p, draft, DocumentPath.sibling, DocumentPath.name,
        hne ".a.json.0.tmp" (by decide)]
  · have hbelow : resolve "/var" below = .ok ⟨"/var", ["jobs", ".a.json.0.tmp", "b.json"]⟩ := by
      decide +kernel
    exact ⟨_, hbelow, by decide, by decide, by decide, documentIn_of_missing hbelow rfl rfl,
      documentIn_of_fault hbelow rfl rfl (by decide)⟩

end Tidemark.Storage.FileTree
