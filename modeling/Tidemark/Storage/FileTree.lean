import Tidemark.Json.Basic
import Tidemark.Storage.FileSystem

/-!
# Trees of files

A file tree is a directory held as a value: names with files and directories under them.  Walking
along a path fails where a name is too long, is not there, or lies below a file; the operations of
a file system are functions on the tree that fail in the same places.
-/

namespace Tidemark.Storage

/-- A file with its content, or a directory with its entries by name. -/
inductive FileTree where
  | file (content : ByteArray)
  | directory (entries : List (String × FileTree))

namespace FileTree

/-- A directory without entries. -/
def empty : FileTree := .directory []

/-- The greatest length of a name, in bytes. -/
def maxName : Nat := 255

/-- Whether a name is too long for a directory entry. -/
def isTooLong (name : String) : Bool :=
  maxName < name.utf8ByteSize

/-- Walks along names. -/
def find : List String → FileTree → Except IoFault FileTree
  | [], t => .ok t
  | _ :: _, .file _ => .error .notADirectory
  | n :: ns, .directory entries =>
    if isTooLong n then .error .nameTooLong
    else
      match Members.find? n entries with
      | none => .error .notFound
      | some t => find ns t

/-- Makes the directories along names; those made before a failure stay. -/
def makeDirectories : List String → FileTree → Except IoFault Unit × FileTree
  | [], .directory entries => (.ok (), .directory entries)
  | [], .file content => (.error .alreadyExists, .file content)
  | _ :: _, .file content => (.error .notADirectory, .file content)
  | n :: ns, .directory entries =>
    if isTooLong n then (.error .nameTooLong, .directory entries)
    else
      let r := makeDirectories ns ((Members.find? n entries).getD empty)
      (r.1, .directory (Members.insert n r.2 entries))

/-- Puts something else, or nothing, in the place of an entry whose directory exists. -/
def update (f : Option FileTree → Except IoFault (Option FileTree)) :
    List String → FileTree → Except IoFault FileTree
  | [], _ => .error .isADirectory
  | _ :: _, .file _ => .error .notADirectory
  | [n], .directory entries =>
    if isTooLong n then .error .nameTooLong
    else
      match f (Members.find? n entries) with
      | .error fault => .error fault
      | .ok none => .ok (.directory (Members.erase n entries))
      | .ok (some t) => .ok (.directory (Members.insert n t entries))
  | n :: k :: ns, .directory entries =>
    if isTooLong n then .error .nameTooLong
    else
      match Members.find? n entries with
      | none => .error .notFound
      | some t => (update f (k :: ns) t).map fun t => .directory (Members.insert n t entries)

theorem find_directory_cons {n : String} {ns : List String} {es : List (String × FileTree)}
    {t : FileTree} (hn : isTooLong n = false) (ht : Members.find? n es = some t) :
    find (n :: ns) (.directory es) = find ns t := by
  simp [find, hn, ht]

/-- What is written is found. -/
theorem find_of_update {f : Option FileTree → Except IoFault (Option FileTree)}
    {names : List String} {t t' new : FileTree} (hf : ∀ old r, f old = .ok r → r = some new)
    (h : update f names t = .ok t') : find names t' = .ok new := by
  fun_induction update f names t generalizing t' with
  | case1 => cases h
  | case2 => cases h
  | case3 => cases h
  | case4 n entries hn fault hfe => cases h
  | case5 n entries hn hfe => exact absurd (hf _ _ hfe) (by simp)
  | case6 n entries hn s hfe =>
    cases h
    cases hf _ _ hfe
    have := Members.find?_insert_self n new entries
    rw [find_directory_cons (by simpa using hn) this, find]
  | case7 => cases h
  | case8 => cases h
  | case9 n k ns entries hn t ht ih =>
    cases hu : update f (k :: ns) t with
    | error e => rw [hu] at h; cases h
    | ok u =>
      rw [hu] at h
      cases h
      have := Members.find?_insert_self n u entries
      rw [find_directory_cons (by simpa using hn) this]
      exact ih hu

theorem find_directory_congr {n : String} {ns : List String} {es fs : List (String × FileTree)}
    (h : Members.find? n es = Members.find? n fs) :
    find (n :: ns) (.directory es) = find (n :: ns) (.directory fs) := by
  simp [find, h]

/-- A change at a path is not seen at a path beside it. -/
theorem find_update_of_not_prefix {f : Option FileTree → Except IoFault (Option FileTree)}
    {names others : List String} {t t' : FileTree} (h : update f names t = .ok t')
    (hs : ¬ others <+: names) (he : ¬ names <+: others) : find others t' = find others t := by
  fun_induction update f names t generalizing t' others with
  | case1 => cases h
  | case2 => cases h
  | case3 => cases h
  | case4 n entries hn fault hfe => cases h
  | case5 n entries hn hfe =>
    cases h
    cases others with
    | nil => exact absurd List.nil_prefix hs
    | cons m ms =>
      have hne : m ≠ n := by rintro rfl; exact he (by simp)
      exact find_directory_congr (Members.find?_erase_of_ne hne entries)
  | case6 n entries hn s hfe =>
    cases h
    cases others with
    | nil => exact absurd List.nil_prefix hs
    | cons m ms =>
      have hne : m ≠ n := by rintro rfl; exact he (by simp)
      exact find_directory_congr (Members.find?_insert_of_ne hne s entries)
  | case7 => cases h
  | case8 => cases h
  | case9 n k ns entries hn t ht ih =>
    cases hu : update f (k :: ns) t with
    | error e => rw [hu] at h; cases h
    | ok u =>
      rw [hu] at h
      cases h
      cases others with
      | nil => exact absurd List.nil_prefix hs
      | cons m ms =>
        by_cases hm : m = n
        · subst hm
          rw [List.cons_prefix_cons] at hs he
          have := ih hu (fun hp => hs ⟨rfl, hp⟩) (fun hp => he ⟨rfl, hp⟩)
          simpa [find, ht] using congrArg _ this
        · exact find_directory_congr (Members.find?_insert_of_ne hm u entries)

/-- Puts a file in the place of a file or of nothing. -/
def place (t : FileTree) : Option FileTree → Except IoFault (Option FileTree)
  | some (.directory _) => .error .isADirectory
  | _ => .ok (some t)

/-- Takes a file away. -/
def take : Option FileTree → Except IoFault (Option FileTree)
  | none => .error .notFound
  | some (.directory _) => .error .isADirectory
  | some (.file _) => .ok none

/-- The content of the file at the end of names. -/
def read (names : List String) (t : FileTree) : Except IoFault ByteArray := do
  match ← find names t with
  | .file content => return content
  | .directory _ => throw .isADirectory

/-- The tree with a file written. -/
def write (names : List String) (content : ByteArray) (t : FileTree) : Except IoFault FileTree :=
  update (place (.file content)) names t

theorem eq_some_of_place {t : FileTree} {old r : Option FileTree} (h : place t old = .ok r) :
    r = some t := by
  unfold place at h
  split at h
  · cases h
  · cases h
    rfl

/-- The tree with a file removed. -/
def remove (names : List String) (t : FileTree) : Except IoFault FileTree :=
  update take names t

/-- The tree with a file under another path. -/
def rename (source target : List String) (t : FileTree) : Except IoFault FileTree := do
  let content ← read source t
  if source = target then return t
  remove source (← write target content t)

mutual

/-- All entries of a tree with their paths; a directory has no content. -/
def entries (above : List String) : FileTree → List (List String × Option ByteArray)
  | .file content => [(above, some content)]
  | .directory es => (above, none) :: entriesOf above es

/-- All entries below a directory. -/
def entriesOf (above : List String) :
    List (String × FileTree) → List (List String × Option ByteArray)
  | [] => []
  | (n, t) :: rest => entries (above ++ [n]) t ++ entriesOf above rest

end

/-! ### Trees as a file system -/

/-- Whether a path holds the character that ends a path. -/
def hasNul (p : DocumentPath) : Bool :=
  p.names.any fun n => n.toList.contains '\x00'

/-- The greatest length of a path, in bytes. -/
def maxPath : Nat := 4095

/-- Whether a path is too long for any operation. -/
def isPathTooLong (p : DocumentPath) : Bool :=
  maxPath < p.text.utf8ByteSize

/-- Why no operation takes some paths, whatever the tree holds. -/
def refusal? (ps : List DocumentPath) : Option IoFault :=
  if ps.any hasNul then some .nulInPath
  else if ps.any isPathTooLong then some .nameTooLong
  else none

/-- A result with the tree that it leaves behind. -/
abbrev Outcome (α : Type) := Except IoFault α × FileTree

/-- An operation on the files at some paths, unless one of the paths is refused. -/
def guarded {α : Type} (ps : List DocumentPath) (f : FileTree → Outcome α) :
    StateM FileTree (Except IoFault α) :=
  modifyGet fun t =>
    match refusal? ps with
    | some fault => (.error fault, t)
    | none => f t

/-- A change of the tree that leaves it as it was when it fails. -/
def change (f : FileTree → Except IoFault FileTree) (t : FileTree) : Outcome Unit :=
  match f t with
  | .ok t => (.ok (), t)
  | .error fault => (.error fault, t)

/-- The file system of a tree in which the root of all paths lies at the end of names. -/
def fileSystemBelow (above : List String) (fresh : String) : FileSystem (StateM FileTree) where
  makeDirectories p := guarded [p] (makeDirectories (above ++ p.names))
  write p content := guarded [p] (change (write (above ++ p.names) content))
  rename source target :=
    guarded [source, target] (change (rename (above ++ source.names) (above ++ target.names)))
  remove p := guarded [p] (change (remove (above ++ p.names)))
  read p := guarded [p] fun t => (read (above ++ p.names) t, t)
  freshName := pure fresh

end FileTree

end Tidemark.Storage
