import Tidemark.Proofs.Json.ValueText
import Tidemark.Proofs.Storage.Below

/-!
# What a written document leaves in a directory

A write goes through three trees: the one with the directories above the document, the one with the
draft beside its path, and the one with the draft in its place (`Steps`).  Taken together they
change nothing but what a write is for: in the last tree the document stands at its path, the
directories above it are there, and at every other path stands what stood there
(`Steps.item?_eq`).  Readers of other paths do not notice, unless they notice that a name is too
long (`Steps.alike`).
-/

namespace Tidemark.Storage

open Directory

namespace DocumentPath

/-- The name of a draft is longer than the name of its document. -/
lemma draft_name_ne (name fresh : String) : "." ++ name ++ "." ++ fresh ++ ".tmp" ≠ name := by
  intro h
  have hlength := congrArg String.length h
  simp only [String.length_append] at hlength
  have hdot : ".".length = 1 := by decide
  omega

/-- The names on the way to a document are those of its directory and its own. -/
lemma names_eq {root uri : String} {p : DocumentPath} (hp : resolve root uri = .ok p) :
    p.names = p.names.dropLast ++ [p.name] := by
  unfold resolve at hp
  split at hp
  next q hq =>
    obtain rfl := Except.ok.inj hp
    obtain ⟨hne, -, rfl⟩ := ofUri?_eq_some_iff.1 hq
    rw [name, List.getLast?_eq_getLast_of_ne_nil hne, Option.getD_some,
      List.dropLast_append_getLast]
  next => cases hp

end DocumentPath

namespace FileTree

/-! ### Names of a directory -/

section Names

variable {parent names : List String} {x y : String}

lemma concat_ne (parent : List String) (h : x ≠ y) : parent ++ [x] ≠ parent ++ [y] := by
  intro heq
  exact h (List.singleton_inj.1 (List.append_cancel_left heq))

/-- A path in a directory is not above another one in it. -/
lemma siblings_apart (parent : List String) (h : x ≠ y) : ¬ parent ++ [x] <+: parent ++ [y] := by
  intro habove
  exact concat_ne parent h (habove.eq_of_length (by simp))

/-- A path in a directory is not above the directory. -/
lemma child_not_above (parent : List String) (x : String) : ¬ parent ++ [x] <+: parent := by
  intro habove
  have hlength := habove.length_le
  simp at hlength

/-- A path that is neither on the way to a directory nor at a name in it is beside that name. -/
lemma not_prefix_concat (hp : ¬ names <+: parent) (hx : ¬ parent ++ [x] <+: names) :
    ¬ names <+: parent ++ [x] := by
  intro h
  rcases List.prefix_concat_iff.1 h with rfl | h
  · exact hx (List.prefix_refl _)
  · exact hp h

end Names

/-! ### The trees of a write -/

/-- A tree in which a file was written at a name of a directory by way of a draft, with the trees
before it. -/
structure Steps (parent : List String) (name draft : String) (content : ByteArray)
    (t t' : FileTree) where
  made : FileTree
  drafted : FileTree
  replaced : FileTree
  makeDirectories_eq : makeDirectories parent t = (.ok (), made)
  write_draft : write (parent ++ [draft]) content made = .ok drafted
  write_target : write (parent ++ [name]) content drafted = .ok replaced
  remove_draft : remove (parent ++ [draft]) replaced = .ok t'

namespace Steps

variable {parent : List String} {name draft : String} {content : ByteArray} {t t' : FileTree}

/-- A draft that was written and then renamed went this way. -/
lemma of_rename (h : draft ≠ name) {made drafted : FileTree}
    (hmake : makeDirectories parent t = (.ok (), made))
    (hwrite : write (parent ++ [draft]) content made = .ok drafted)
    (hrename : rename (parent ++ [draft]) (parent ++ [name]) drafted = .ok t') :
    Nonempty (Steps parent name draft content t t') := by
  obtain ⟨content', replaced, hfind, htarget, hremove⟩ :=
    exists_of_rename hrename (concat_ne parent h)
  have hitem := item?_write hwrite (parent ++ [draft])
  rw [if_pos rfl, find_eq_file_iff.1 hfind] at hitem
  obtain rfl : content' = content := by simpa using hitem
  exact ⟨⟨made, drafted, replaced, hmake, hwrite, htarget, hremove⟩⟩

/-- At the end the file stands at its name, nothing at the draft, directories on the way, and
everywhere else what stood there. -/
theorem item?_eq (steps : Steps parent name draft content t t') (h : draft ≠ name)
    (names : List String) :
    item? names t' =
      if names = parent ++ [name] then some (.file content)
      else if names = parent ++ [draft] then none
      else if names <+: parent then some .directory
      else item? names t := by
  have hmade : item? names steps.made
      = if names <+: parent then some .directory else item? names t := by
    have hmake := steps.makeDirectories_eq
    have hitem := item?_makeDirectories (congrArg Prod.fst hmake) names
    rwa [hmake] at hitem
  rw [item?_remove steps.remove_draft, item?_write steps.write_target,
    item?_write steps.write_draft, hmade]
  by_cases htarget : names = parent ++ [name]
  · simp [htarget, (concat_ne parent h).symm]
  · by_cases hdraft : names = parent ++ [draft]
    · simp [hdraft, concat_ne parent h]
    · simp [htarget, hdraft]

/-- A path beside the file, and not below the draft, is alike at the end. -/
lemma alike_of_not_below (steps : Steps parent name draft content t t') {names : List String}
    (hs : ¬ names <+: parent ++ [name]) (he : ¬ parent ++ [name] <+: names)
    (hd : ¬ parent ++ [draft] <+: names) : Alike names t t' := by
  have hparent : ¬ names <+: parent := fun hp => hs (hp.trans (List.prefix_append parent [name]))
  have hdraft : ¬ names <+: parent ++ [draft] := not_prefix_concat hparent hd
  have hmake := alike_makeDirectories parent t hparent
  rw [steps.makeDirectories_eq] at hmake
  exact hmake.trans <| (Alike.of_update steps.write_draft hdraft hd).trans <|
    (Alike.of_update steps.write_target hs he).trans (Alike.of_update steps.remove_draft hdraft hd)

/-- Where there was nothing at the draft, nothing was missing but the draft. -/
lemma find_draft_eq (steps : Steps parent name draft content t t')
    (hfresh : item? (parent ++ [draft]) t = none) :
    find (parent ++ [draft]) t = .error .notFound := by
  obtain ⟨fault, hfault⟩ := item?_eq_none_iff.1 hfresh
  have hmake := alike_makeDirectories parent t (child_not_above parent draft)
  rw [steps.makeDirectories_eq] at hmake
  cases hmake with
  | same h =>
    rw [hfault] at h ⊢
    rw [eq_notFound_of_update steps.write_draft h]
  | noticed _ hafter _ =>
    have hwrong := eq_notFound_of_update steps.write_draft hafter
    cases hwrong

/-- A path beside the file is alike at the end, if there was nothing at a draft above it. -/
theorem alike (steps : Steps parent name draft content t t') {names : List String}
    (hs : ¬ names <+: parent ++ [name]) (he : ¬ parent ++ [name] <+: names)
    (hd : parent ++ [draft] <+: names → item? (parent ++ [draft]) t = none) :
    Alike names t t' := by
  by_cases hbelow : parent ++ [draft] <+: names
  · obtain ⟨more, rfl⟩ := hbelow
    have hbefore := steps.find_draft_eq (hd (List.prefix_append _ more))
    have hafter := find_of_remove steps.remove_draft
    exact .same (by rw [find_append_of_error hbefore, find_append_of_error hafter])
  · exact steps.alike_of_not_below hs he hbelow

end Steps

/-! ### A write that succeeds -/

section Writing

variable {above : List String} {fresh root : String} {l : Location} {body : Json} {p : DocumentPath}
  {t t' : FileTree}

/-- The names of the directory of a document. -/
def parentNames (above : List String) (p : DocumentPath) : List String :=
  above ++ p.names.dropLast

/-- The name of the draft of a document. -/
def draftName (p : DocumentPath) (fresh : String) : String :=
  "." ++ p.name ++ "." ++ fresh ++ ".tmp"

lemma names_draft (above : List String) (p : DocumentPath) (fresh : String) :
    above ++ (draft p fresh).names = parentNames above p ++ [draftName p fresh] := by
  simp [draft, DocumentPath.sibling, parentNames, draftName]

lemma names_target (above : List String) (hp : resolve root l.uri = .ok p) :
    above ++ p.names = parentNames above p ++ [p.name] := by
  rw [parentNames, List.append_assoc, ← DocumentPath.names_eq hp]

lemma eq_of_run_guarded {α : Type} {ps : List DocumentPath} {f : FileTree → Outcome α} {a : α}
    (h : (guarded ps f).run t = (.ok a, t')) : refusal? ps = none ∧ f t = (.ok a, t') := by
  rw [run_guarded] at h
  cases hrefusal : refusal? ps with
  | some fault =>
    rw [hrefusal] at h
    cases h
  | none =>
    rw [hrefusal] at h
    exact ⟨rfl, h⟩

lemma eq_of_change {f : FileTree → Except IoFault FileTree} (h : change f t = (.ok (), t')) :
    f t = .ok t' := by
  unfold change at h
  split at h
  next u hu =>
    cases h
    exact hu
  next => cases h

lemma run_attempt {σ α : Type} {x : StateM σ (Except IoFault α)} {s s' : σ} {r : Except IoFault α}
    (hx : x.run s = (r, s')) (p : DocumentPath) :
    (attempt p x).run s = (r.mapError (.io p.text), s') :=
  run_bind_of hx _

/-- A write that succeeds has made its directories, written its draft and renamed it. -/
lemma exists_of_run_writeAt {σ : Type} {fs : FileSystem (StateM σ)} {s s' : σ}
    (h : (writeAt fs p body).run s = (.ok (), s')) :
    ∃ s₁ s₂ s₃ name, (fs.makeDirectories p.parent).run s = (.ok (), s₁) ∧
      fs.freshName.run s₁ = (name, s₂) ∧
      (fs.write (draft p name) (encode body)).run s₂ = (.ok (), s₃) ∧
      (fs.rename (draft p name) p).run s₃ = (.ok (), s') := by
  unfold writeAt at h
  rcases hmake : (fs.makeDirectories p.parent).run s with ⟨made | ⟨⟩, s₁⟩
  · rw [run_bind_of (run_attempt hmake p.parent)] at h
    cases h
  rcases hfresh : fs.freshName.run s₁ with ⟨name, s₂⟩
  rcases hwrite : (fs.write (draft p name) (encode body)).run s₂ with ⟨written | ⟨⟩, s₃⟩
  · rw [run_bind_of (run_attempt hmake p.parent)] at h
    dsimp only [Except.mapError] at h
    rw [run_bind_of hfresh, run_bind_of (run_attempt hwrite _)] at h
    cases h
  rw [run_bind_of (run_attempt hmake p.parent)] at h
  dsimp only [Except.mapError] at h
  rw [run_bind_of hfresh, run_bind_of (run_attempt hwrite _)] at h
  dsimp only [Except.mapError, replace] at h
  rcases hrename : (fs.rename (draft p name) p).run s₃ with ⟨renamed | ⟨⟩, s₄⟩
  · rw [run_bind_of hrename] at h
    dsimp only at h
    cases h
  · rw [run_bind_of hrename] at h
    cases h
    exact ⟨s₁, s₂, s₃, name, rfl, hfresh, hwrite, hrename⟩

/-- A write that succeeds has gone through the trees of a write, on a path that is not refused. -/
lemma steps_of_run (hp : resolve root l.uri = .ok p)
    (h : ((backend (fileSystemBelow above fresh) root).write l body).run t = (.ok (), t')) :
    refusal? [p] = none ∧
      Nonempty (Steps (parentNames above p) p.name (draftName p fresh) (encode body) t t') := by
  rw [backend_write_of_resolve _ _ hp] at h
  obtain ⟨t₁, t₂, t₃, name, hmake, hfresh, hwrite, hrename⟩ := exists_of_run_writeAt h
  obtain ⟨rfl, rfl⟩ : fresh = name ∧ t₁ = t₂ := Prod.mk.inj hfresh
  obtain ⟨-, hmake⟩ := eq_of_run_guarded hmake
  obtain ⟨-, hwrite⟩ := eq_of_run_guarded hwrite
  obtain ⟨hrefusal, hrename⟩ := eq_of_run_guarded hrename
  have hwrite := eq_of_change hwrite
  have hrename := eq_of_change hrename
  rw [names_draft] at hwrite hrename
  rw [names_target above hp] at hrename
  exact ⟨refusal?_eq_none_of_mem (by simp) hrefusal,
    Steps.of_rename (DocumentPath.draft_name_ne p.name fresh) hmake hwrite hrename⟩

end Writing

/-- **What is written is read, and nothing else is changed.**  A tree of files holds the root of the
documents at the end of `above`, and a document is written in it.  If the write succeeds, every URI
with the same path reads as the pretty text of the body, and a body of the kind that a reader takes,
with integers for numbers and nested at most 127 deep, is what that text holds.  In the tree that is
left the document stands at its path, nothing stands at the draft, directories stand on the way to
the document, and at every other path stands what stood there.  A URI beside the document reads as
before, also below the draft if there was nothing at its path; but where it read as missing, it may
be reported now that a name of its path is too long. -/
theorem written_document_is_read {above : List String} {fresh root : String} {l : Location}
    {body : Json} {t t' : FileTree}
    (h : ((backend (fileSystemBelow above fresh) root).write l body).run t = (.ok (), t')) :
    ∃ p, resolve root l.uri = .ok p ∧
      (∀ uri, resolve root uri = .ok p →
        documentIn above root uri t' = .ok (some body.pretty)) ∧
      (Json.Plain Json.Decoder.maxDepth body → Json.read body.pretty = .ok body) ∧
      (∀ names, item? names t' =
        if names = above ++ p.names then some (.file (encode body))
        else if names = above ++ (draft p fresh).names then none
        else if names <+: above ++ p.parent.names then some .directory
        else item? names t) ∧
      ∀ uri q, resolve root uri = .ok q → ¬ q.names <+: p.names → ¬ p.names <+: q.names →
        ((draft p fresh).names <+: q.names → item? (above ++ (draft p fresh).names) t = none) →
        StillReads above root uri t t' := by
  obtain ⟨p, hp⟩ : ∃ p, resolve root l.uri = .ok p := by
    cases hresolve : resolve root l.uri with
    | ok p => exact ⟨p, rfl⟩
    | error e =>
      unfold backend at h
      dsimp only at h
      rw [hresolve] at h
      cases h
  obtain ⟨hrefusal, ⟨steps⟩⟩ := steps_of_run hp h
  have hname : draftName p fresh ≠ p.name := DocumentPath.draft_name_ne p.name fresh
  have hitem := steps.item?_eq hname
  refine ⟨p, hp, ?_, Json.read_pretty, ?_, ?_⟩
  · intro uri huri
    refine documentIn_of_find huri hrefusal (find_eq_file_iff.2 ?_)
    rw [hitem, names_target above hp, if_pos rfl]
  · intro names
    rw [hitem, names_target above hp, names_draft]
    rfl
  · intro uri q hq hs he hd
    refine stillReads_of_alike hq (steps.alike ?_ ?_ ?_)
    · rwa [← names_target above hp, List.prefix_append_right_inj]
    · rwa [← names_target above hp, List.prefix_append_right_inj]
    · rwa [← names_draft, List.prefix_append_right_inj]

/-- The tree that is left where the document of a job was written in an empty one. -/
def jobTree (body : Json) : FileTree :=
  .directory [("jobs", .directory [("a.json", .file (encode body))])]

/-- The document of a job is written in an empty tree. -/
lemma run_write_job (body : Json) :
    ((backend (fileSystemBelow [] "0") "/var").write ⟨"/jobs/a.json", "", []⟩ body).run empty
      = (.ok (), jobTree body) :=
  rfl

/-- A document with a string and an integer is read back, also under a URI with more slashes and a
dot, and a URI beside it reads as before. -/
theorem job_document_is_read :
    let body := Json.object [("lastValue", .string "1"), ("rowCount", .ofInt 1)]
    ((backend (fileSystemBelow [] "0") "/var").write ⟨"/jobs/a.json", "", []⟩ body).run empty
        = (.ok (), jobTree body) ∧
      documentIn [] "/var" "jobs//./a.json" (jobTree body) = .ok (some body.pretty) ∧
      Json.read body.pretty = .ok body ∧
      StillReads [] "/var" "/jobs/b.json" empty (jobTree body) := by
  intro body
  have hplain : Json.Plain Json.Decoder.maxDepth body := by
    refine .object (by decide) ?_
    intro m hm
    simp only [List.mem_cons, List.not_mem_nil, or_false] at hm
    rcases hm with rfl | rfl
    · exact .string "1"
    · exact .integer (by decide) (by decide)
  obtain ⟨p, hp, hsame, hbody, -, hother⟩ := written_document_is_read (run_write_job body)
  obtain rfl : (⟨"/var", ["jobs", "a.json"]⟩ : DocumentPath) = p := Except.ok.inj hp
  refine ⟨run_write_job body, hsame _ rfl, hbody hplain, ?_⟩
  exact hother "/jobs/b.json" ⟨"/var", ["jobs", "b.json"]⟩ rfl (by decide) (by decide)
    (fun h => absurd h (by decide))

/-- A document nested 128 deep is written in an empty tree and found there, but its text is not
read.  Beside it, a URI with a name that is too long read as missing before, because its directory
was missing, and is an error afterwards. -/
theorem deep_body_and_overlong_name :
    let body := Json.nested Json.Decoder.maxDepth
    ((backend (fileSystemBelow [] "0") "/var").write ⟨"/jobs/a.json", "", []⟩ body).run empty
        = (.ok (), jobTree body) ∧
      documentIn [] "/var" "/jobs/a.json" (jobTree body) = .ok (some body.pretty) ∧
      Json.read body.pretty = .error .malformed ∧
      resolve "/var" overlongUri = .ok overlongPath ∧
      documentIn [] "/var" overlongUri empty = .ok none ∧
      documentIn [] "/var" overlongUri (jobTree body)
        = .error (.io overlongPath.text .nameTooLong) := by
  intro body
  refine ⟨run_write_job body, ?_, Json.read_pretty_nested, resolve_overlong, ?_, ?_⟩
  · exact documentIn_of_find (p := ⟨"/var", ["jobs", "a.json"]⟩) rfl rfl rfl
  · exact documentIn_overlong_of_missing rfl
  · exact documentIn_overlong_of_directory rfl

end FileTree

end Tidemark.Storage
