import Tidemark.Proofs.Storage.Components
import Tidemark.Proofs.Storage.Reading
import Tidemark.Proofs.Storage.Tree

/-!
# A directory of documents inside a larger tree

The root of the documents may itself lie deep in a tree of files, and it need not be there before
the first write (`fileSystemBelow`).  What a reader finds under a URI (`documentIn`) depends on what
is found at one path of the tree, so trees that are alike at that path read alike (`StillReads`),
and a path with a file that holds the bytes of a document reads as its text.
-/

namespace Tidemark.Storage

open Directory

section Backend

variable {m : Type → Type} [Monad m] {root : String} {p : DocumentPath}

/-- A document is read at the path of its URI. -/
lemma backend_read_of_resolve (fs : FileSystem m) {uri : String} (hp : resolve root uri = .ok p) :
    (backend fs root).read uri = readAt fs p := by
  simp only [backend, hp]

/-- A document is written at the path of its URI. -/
lemma backend_write_of_resolve (fs : FileSystem m) {l : Location} (body : Json)
    (hp : resolve root l.uri = .ok p) : (backend fs root).write l body = writeAt fs p body := by
  simp only [backend, hp]

end Backend

namespace FileTree

lemma run_guarded {α : Type} (ps : List DocumentPath) (f : FileTree → Outcome α) (t : FileTree) :
    (guarded ps f).run t = match refusal? ps with
      | some fault => (.error fault, t)
      | none => f t :=
  rfl

/-- What is not refused for several paths is not refused for one of them. -/
lemma refusal?_eq_none_of_mem {ps : List DocumentPath} {p : DocumentPath} (hp : p ∈ ps)
    (h : refusal? ps = none) : refusal? [p] = none := by
  unfold refusal? at h ⊢
  split at h
  · cases h
  next hnul =>
    split at h
    · cases h
    next hlong =>
      simp only [List.any_eq_true, not_exists, not_and] at hnul hlong
      simp [hnul p hp, hlong p hp]

/-! ### Readers -/

/-- What a reader finds in a tree under a URI. -/
def documentIn (above : List String) (root uri : String) (t : FileTree) :
    Except BackendError (Option String) :=
  (((backend (fileSystemBelow above "") root).read uri).run t).1

/-- A reader asks for one file. -/
lemma documentIn_eq {above : List String} {root uri : String} {p : DocumentPath}
    (hp : resolve root uri = .ok p) (t : FileTree) :
    documentIn above root uri t = documentOf p (match refusal? [p] with
      | some fault => .error fault
      | none => read (above ++ p.names) t) := by
  have hread : ((fileSystemBelow above "").read p).run t = ((match refusal? [p] with
      | some fault => .error fault
      | none => read (above ++ p.names) t), t) := by
    dsimp only [fileSystemBelow]
    rw [run_guarded]
    cases refusal? [p] <;> rfl
  rw [documentIn, backend_read_of_resolve _ hp, run_readAt hread]

/-- A reader finds in one tree what it would find in another, or it finds no document in that one
and notices in this one that a name is too long. -/
def StillReads (above : List String) (root uri : String) (t w : FileTree) : Prop :=
  documentIn above root uri w = documentIn above root uri t ∨
    ∃ p, resolve root uri = .ok p ∧ (∃ n ∈ above ++ p.names, isTooLong n = true) ∧
      documentIn above root uri t = .ok none ∧
      documentIn above root uri w = .error (.io p.text .nameTooLong)

section Readers

variable {above : List String} {root uri : String} {p : DocumentPath} {t w : FileTree}

/-- What is read depends on what is found. -/
lemma read_congr {names : List String} (h : find names w = find names t) :
    read names w = read names t := by
  rw [read, h, read]

lemma read_of_find_error {names : List String} {fault : IoFault}
    (h : find names t = .error fault) : read names t = .error fault := by
  rw [read, h]
  rfl

lemma read_of_find_file {names : List String} {content : ByteArray}
    (h : find names t = .ok (.file content)) : read names t = .ok content := by
  rw [read, h]
  rfl

/-- Where nothing is found, a document is missing. -/
lemma documentIn_of_missing (hp : resolve root uri = .ok p) (hrefusal : refusal? [p] = none)
    (h : find (above ++ p.names) t = .error .notFound) :
    documentIn above root uri t = .ok none := by
  rw [documentIn_eq hp, hrefusal]
  dsimp only
  rw [read_of_find_error h, documentOf]

/-- Any other fault is reported with the path. -/
lemma documentIn_of_fault (hp : resolve root uri = .ok p) (hrefusal : refusal? [p] = none)
    {fault : IoFault} (h : find (above ++ p.names) t = .error fault) (hfault : fault ≠ .notFound) :
    documentIn above root uri t = .error (.io p.text fault) := by
  rw [documentIn_eq hp, hrefusal]
  dsimp only
  rw [read_of_find_error h, documentOf]
  rintro rfl
  exact hfault rfl

/-- Trees that are alike at the path of a URI read alike. -/
lemma stillReads_of_alike (hp : resolve root uri = .ok p) (h : Alike (above ++ p.names) t w) :
    StillReads above root uri t w := by
  cases h with
  | same h =>
    left
    rw [documentIn_eq hp, documentIn_eq hp, read_congr h]
  | noticed hbefore hafter hlong =>
    cases hrefusal : refusal? [p] with
    | some fault =>
      left
      rw [documentIn_eq hp, documentIn_eq hp, hrefusal]
    | none =>
      exact .inr ⟨p, hp, hlong, documentIn_of_missing hp hrefusal hbefore,
        documentIn_of_fault hp hrefusal hafter (by decide)⟩

/-- The bytes of a stored document are its text. -/
lemma decode_encode (body : Json) : decode (encode body) = .ok body.pretty :=
  decode_eq_ok_iff.2 rfl

/-- A path that is not refused reads as the document whose bytes are found there. -/
lemma documentIn_of_find (hp : resolve root uri = .ok p) (hrefusal : refusal? [p] = none)
    {body : Json} (h : find (above ++ p.names) t = .ok (.file (encode body))) :
    documentIn above root uri t = .ok (some body.pretty) := by
  rw [documentIn_eq hp, hrefusal]
  dsimp only
  rw [read_of_find_file h, documentOf, decode_encode]
  rfl

/-- A refused path reads in the same way in every tree. -/
lemma documentIn_of_refused (hp : resolve root uri = .ok p) {fault : IoFault}
    (hrefusal : refusal? [p] = some fault) :
    documentIn above root uri w = documentIn above root uri t := by
  rw [documentIn_eq hp, documentIn_eq hp, hrefusal]

end Readers

/-! ### A name that is too long -/

/-- A name with one byte more than a name can have; it is not to be spelled out. -/
@[irreducible]
def overlongName : String :=
  String.ofList (List.replicate 256 'x')

/-- A URI with such a name in a directory. -/
def overlongUri : String :=
  "/jobs/" ++ overlongName

/-- The path of the URI. -/
def overlongPath : DocumentPath :=
  ⟨"/var", ["jobs", overlongName]⟩

lemma toList_overlongName : overlongName.toList = List.replicate 256 'x' := by
  unfold overlongName
  exact String.toList_ofList

lemma utf8ByteSize_overlongName : overlongName.utf8ByteSize = 256 := by
  unfold overlongName
  decide +kernel

lemma isTooLong_overlongName : isTooLong overlongName = true := by
  rw [isTooLong, utf8ByteSize_overlongName]
  decide

lemma resolve_overlong : resolve "/var" overlongUri = .ok overlongPath := by
  have hpieces : (Text.pieces '/' ("/jobs/".toList ++ List.replicate 256 'x')).filter
      (fun p => decide (p ≠ [] ∧ p ≠ ['.'])) = ["jobs".toList, List.replicate 256 'x'] := by
    decide +kernel
  have hsegments : segments overlongUri = ["jobs", overlongName] := by
    rw [segments, ← Text.pieces_eq_splitOn, overlongUri, String.toList_append,
      toList_overlongName, hpieces]
    unfold overlongName
    rfl
  have habove : ".." ≠ overlongName := by
    intro h
    have hsize := congrArg String.utf8ByteSize h
    rw [utf8ByteSize_overlongName] at hsize
    exact absurd hsize (by decide)
  have hpath : DocumentPath.ofUri? "/var" overlongUri = some overlongPath := by
    rw [DocumentPath.ofUri?_eq_some_iff, hsegments]
    refine ⟨by simp, ?_, rfl⟩
    simp only [List.mem_cons, List.not_mem_nil, or_false, not_or]
    exact ⟨by decide, habove⟩
  rw [resolve, hpath]

lemma refusal?_overlong : refusal? [overlongPath] = none := by
  have hnul : hasNul overlongPath = false := by
    have hlist : (List.replicate 256 'x').contains '\x00' = false := by decide +kernel
    rw [hasNul, overlongPath, List.any_cons, List.any_cons, List.any_nil, toList_overlongName,
      hlist]
    decide
  have hjobs : DocumentPath.join "/var" "jobs" = "/var/jobs" := by decide +kernel
  have htext : overlongPath.text = "/var/jobs" ++ "/" ++ overlongName := by
    rw [overlongPath, DocumentPath.text_eq_foldl_join (by simp), List.foldl_cons, List.foldl_cons,
      List.foldl_nil, hjobs, DocumentPath.join, if_neg (by decide +kernel)]
  have hsize : isPathTooLong overlongPath = false := by
    rw [isPathTooLong, htext, String.utf8ByteSize_append, utf8ByteSize_overlongName]
    decide
  simp [refusal?, hnul, hsize]

/-- Where its directory is missing, a document with such a name is missing. -/
lemma documentIn_overlong_of_missing {es : List (String × FileTree)}
    (h : Members.find? "jobs" es = none) :
    documentIn [] "/var" overlongUri (.directory es) = .ok none := by
  have hfind : find ["jobs", overlongName] (.directory es) = .error .notFound := by
    rw [find, if_neg (by decide), h]
  exact documentIn_of_missing resolve_overlong refusal?_overlong hfind

/-- Where its directory is there, its name is too long. -/
lemma documentIn_overlong_of_directory {es fs : List (String × FileTree)}
    (h : Members.find? "jobs" es = some (.directory fs)) :
    documentIn [] "/var" overlongUri (.directory es)
      = .error (.io overlongPath.text .nameTooLong) := by
  have hfind : find ["jobs", overlongName] (.directory es) = .error .nameTooLong := by
    rw [find_directory_cons (by decide) h, find, if_pos isTooLong_overlongName]
  exact documentIn_of_fault resolve_overlong refusal?_overlong hfind (by decide)

end FileTree

end Tidemark.Storage
