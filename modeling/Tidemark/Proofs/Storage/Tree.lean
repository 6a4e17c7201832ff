import Mathlib.Tactic.Common
import Tidemark.Proofs.Result
import Tidemark.Storage.FileTree

/-!
# What the operations on a tree of files leave as it was

A tree is the same as another one at every path but a few after each operation.  What stands at a
path (`item?`) changes with a file only at the path of that file, and with directories only at the
paths that are made.  This does not yet say why a path without a file has none, and a reader tells
the reasons apart: once the directories above it are there, a path with a name that is too long is
no longer merely missing.  `Alike` says that this is the only difference, and no operation makes
another one at a path beside its own.
-/

namespace Tidemark.Storage.FileTree

/-- What stands at the end of a path. -/
inductive Item where
  | file (content : ByteArray)
  | directory

/-- A tree seen from above. -/
def item : FileTree → Item
  | .file content => .file content
  | .directory _ => .directory

/-- What stands at the end of names, if there is anything. -/
def item? (names : List String) (t : FileTree) : Option Item :=
  match find names t with
  | .ok u => some u.item
  | .error _ => none

@[simp] lemma item?_nil (t : FileTree) : item? [] t = some t.item :=
  rfl

@[simp] lemma item?_cons_file (n : String) (ns : List String) (content : ByteArray) :
    item? (n :: ns) (.file content) = none :=
  rfl

lemma item?_cons_directory (n : String) (ns : List String) (es : List (String × FileTree)) :
    item? (n :: ns) (.directory es)
      = if isTooLong n then none else (Members.find? n es).bind (item? ns) := by
  rw [item?, find]
  by_cases hn : isTooLong n = true
  · simp [hn]
  · cases hold : Members.find? n es with
    | none => simp [hn]
    | some u =>
      simp only [hn, Bool.false_eq_true, if_false, Option.bind_some]
      rfl

lemma item?_eq_some_iff {names : List String} {t : FileTree} {e : Item} :
    item? names t = some e ↔ ∃ u, find names t = .ok u ∧ u.item = e := by
  unfold item?
  cases find names t <;> simp

lemma item?_eq_none_iff {names : List String} {t : FileTree} :
    item? names t = none ↔ ∃ fault, find names t = .error fault := by
  unfold item?
  cases find names t <;> simp

/-- What is found at a file is the file. -/
lemma find_eq_file_iff {names : List String} {t : FileTree} {content : ByteArray} :
    find names t = .ok (.file content) ↔ item? names t = some (.file content) := by
  rw [item?_eq_some_iff]
  constructor
  · intro h
    exact ⟨_, h, rfl⟩
  · rintro ⟨u, hu, hitem⟩
    cases u with
    | file content' =>
      cases hitem
      exact hu
    | directory es => cases hitem

/-- A walk that fails fails further down for the same reason. -/
lemma find_append_of_error {names : List String} {t : FileTree} {fault : IoFault}
    (h : find names t = .error fault) (more : List String) :
    find (names ++ more) t = .error fault := by
  fun_induction find names t with
  | case1 => cases h
  | case2 => exact h
  | case3 n ns es hn =>
    rw [List.cons_append, find, if_pos hn]
    exact h
  | case4 n ns es hn hmissing =>
    rw [List.cons_append, find, if_neg hn, hmissing]
    exact h
  | case5 n ns es hn t ht ih =>
    rw [List.cons_append, find, if_neg hn, ht]
    exact ih h

/-! ### What stands elsewhere -/

/-- A change of an entry that is no directory into one that is none. -/
def SparesDirectories (f : Option FileTree → Except IoFault (Option FileTree)) : Prop :=
  ∀ old new, f old = .ok new →
    (∀ es, old ≠ some (.directory es)) ∧ ∀ es, new ≠ some (.directory es)

lemma sparesDirectories_place (content : ByteArray) :
    SparesDirectories (place (.file content)) := by
  intro old new h
  obtain rfl := eq_some_of_place h
  refine ⟨?_, nofun⟩
  rintro es rfl
  cases h

lemma sparesDirectories_take : SparesDirectories take := by
  intro old new h
  unfold take at h
  split at h
  · cases h
  · cases h
  · cases h
    exact ⟨nofun, nofun⟩

/-- Nothing stands below an entry that is no directory. -/
lemma bind_item?_cons {old : Option FileTree} (h : ∀ es, old ≠ some (.directory es)) (n : String)
    (ns : List String) : old.bind (item? (n :: ns)) = none := by
  rcases old with _ | content | es
  · rfl
  · rfl
  · exact absurd rfl (h es)

/-- Directories whose members are the same but for one, which is no directory in either, agree at
every path but that of this one. -/
lemma item?_directory_congr {n : String} {es fs : List (String × FileTree)}
    (hsame : ∀ m, m ≠ n → Members.find? m fs = Members.find? m es)
    (hold : ∀ gs, Members.find? n es ≠ some (.directory gs))
    (hnew : ∀ gs, Members.find? n fs ≠ some (.directory gs)) {others : List String}
    (hne : others ≠ [n]) : item? others (.directory fs) = item? others (.directory es) := by
  rcases others with _ | ⟨m, _ | ⟨k, ks⟩⟩
  · rfl
  · have hm : m ≠ n := fun hm => hne (by rw [hm])
    rw [item?_cons_directory, item?_cons_directory, hsame m hm]
  · by_cases hm : m = n
    · subst hm
      rw [item?_cons_directory, item?_cons_directory, bind_item?_cons hold, bind_item?_cons hnew]
    · rw [item?_cons_directory, item?_cons_directory, hsame m hm]

/-- A change of a file is seen at its path only. -/
theorem item?_update_of_ne {f : Option FileTree → Except IoFault (Option FileTree)}
    (hf : SparesDirectories f) {names others : List String} {t t' : FileTree}
    (h : update f names t = .ok t') (hne : others ≠ names) : item? others t' = item? others t := by
  fun_induction update f names t generalizing t' others with
  | case1 => cases h
  | case2 => cases h
  | case3 => cases h
  | case4 n entries hn fault hfe => cases h
  | case5 n entries hn hfe =>
    cases h
    obtain ⟨hold, hnew⟩ := hf _ _ hfe
    refine item?_directory_congr (fun m hm => Members.find?_erase_of_ne hm entries) hold ?_ hne
    rwa [Members.find?_erase_self]
  | case6 n entries hn s hfe =>
    cases h
    obtain ⟨hold, hnew⟩ := hf _ _ hfe
    refine item?_directory_congr (fun m hm => Members.find?_insert_of_ne hm s entries) hold ?_ hne
    rwa [Members.find?_insert_self]
  | case7 => cases h
  | case8 => cases h
  | case9 n k ns entries hn t ht ih =>
    cases hu : update f (k :: ns) t with
    | error e => rw [hu] at h; cases h
    | ok u =>
      rw [hu] at h
      cases h
      cases others with
      | nil => rfl
      | cons m ms =>
        by_cases hm : m = n
        · subst hm
          have hbelow : item? ms u = item? ms t := ih hu fun hms => hne (by rw [hms])
          simp [item?_cons_directory, ht, hbelow]
        · simp [item?_cons_directory, Members.find?_insert_of_ne hm]

/-- A file that was written stands at its path, and everywhere else stands what stood there. -/
theorem item?_write {names : List String} {content : ByteArray} {t t' : FileTree}
    (h : write names content t = .ok t') (others : List String) :
    item? others t' = if others = names then some (.file content) else item? others t := by
  split
  next heq =>
    subst heq
    exact find_eq_file_iff.1 (find_of_update (fun _ _ hf => eq_some_of_place hf) h)
  next hne => exact item?_update_of_ne (sparesDirectories_place content) h hne

/-- Nothing is found where a file was removed. -/
lemma find_of_remove {names : List String} {t t' : FileTree} (h : remove names t = .ok t') :
    find names t' = .error .notFound := by
  unfold remove at h
  fun_induction update take names t generalizing t' with
  | case1 => cases h
  | case2 => cases h
  | case3 => cases h
  | case4 n entries hn fault hfe => cases h
  | case5 n entries hn hfe =>
    cases h
    rw [find, if_neg hn, Members.find?_erase_self]
  | case6 n entries hn s hfe =>
    unfold take at hfe
    split at hfe <;> cases hfe
  | case7 => cases h
  | case8 => cases h
  | case9 n k ns entries hn t ht ih =>
    cases hu : update take (k :: ns) t with
    | error e => rw [hu] at h; cases h
    | ok u =>
      rw [hu] at h
      cases h
      rw [find, if_neg hn, Members.find?_insert_self]
      exact ih hu

/-- Nothing stands where a file was removed, and everywhere else stands what stood there. -/
theorem item?_remove {names : List String} {t t' : FileTree} (h : remove names t = .ok t')
    (others : List String) :
    item? others t' = if others = names then none else item? others t := by
  split
  next heq =>
    subst heq
    exact item?_eq_none_iff.2 ⟨_, find_of_remove h⟩
  next hne => exact item?_update_of_ne sparesDirectories_take h hne

/-- At a name of a directory nothing is found only if it is not there, or too long. -/
lemma eq_notFound_of_find_singleton {n : String} {es : List (String × FileTree)} {fault : IoFault}
    (hn : ¬ isTooLong n = true) (h : find [n] (.directory es) = .error fault) :
    fault = .notFound := by
  rw [find, if_neg hn] at h
  cases hold : Members.find? n es with
  | none =>
    rw [hold] at h
    exact (Except.error.inj h).symm
  | some u =>
    rw [hold] at h
    cases h

/-- Where an entry could be changed, there was one, or only it was missing. -/
lemma eq_notFound_of_update {f : Option FileTree → Except IoFault (Option FileTree)}
    {names : List String} {t t' : FileTree} (h : update f names t = .ok t') {fault : IoFault}
    (hfind : find names t = .error fault) : fault = .notFound := by
  fun_induction update f names t generalizing t' with
  | case1 => cases h
  | case2 => cases h
  | case3 => cases h
  | case4 n entries hn fault' hfe => cases h
  | case5 n entries hn hfe => exact eq_notFound_of_find_singleton hn hfind
  | case6 n entries hn s hfe => exact eq_notFound_of_find_singleton hn hfind
  | case7 => cases h
  | case8 => cases h
  | case9 n k ns entries hn t ht ih =>
    rw [find, if_neg hn, ht] at hfind
    cases hu : update f (k :: ns) t with
    | error e => rw [hu] at h; cases h
    | ok u => exact ih hu hfind

lemma find_of_read {names : List String} {t : FileTree} {content : ByteArray}
    (h : read names t = .ok content) : find names t = .ok (.file content) := by
  obtain ⟨u, hu, hcontent⟩ := exists_of_bind_eq_ok h
  cases u with
  | file c =>
    cases hcontent
    exact hu
  | directory es => cases hcontent

/-- A file that gets another path is written there and removed from where it was. -/
lemma exists_of_rename {source target : List String} {t t' : FileTree}
    (h : rename source target t = .ok t') (hne : source ≠ target) :
    ∃ content u, find source t = .ok (.file content) ∧ write target content t = .ok u ∧
      remove source u = .ok t' := by
  obtain ⟨content, hread, h⟩ := exists_of_bind_eq_ok h
  rw [if_neg hne] at h
  obtain ⟨u, hwrite, hremove⟩ := exists_of_bind_eq_ok h
  exact ⟨content, u, find_of_read hread, hwrite, hremove⟩

/-! ### Directories that are made -/

/-- Directories that were made stand at every path on the way, and everywhere else stands what stood
there. -/
theorem item?_makeDirectories {ds : List String} {t : FileTree}
    (h : (makeDirectories ds t).1 = .ok ()) (others : List String) :
    item? others (makeDirectories ds t).2
      = if others <+: ds then some .directory else item? others t := by
  induction ds generalizing t others with
  | nil =>
    cases t with
    | file content => cases h
    | directory es =>
      cases others with
      | nil => simp [makeDirectories, item]
      | cons m ms => simp [makeDirectories]
  | cons d ds ih =>
    cases t with
    | file content => cases h
    | directory es =>
      by_cases hd : isTooLong d = true
      · simp [makeDirectories, hd] at h
      · simp only [makeDirectories, if_neg hd] at h ⊢
        rcases others with _ | ⟨m, ms⟩
        · simp [item]
        · by_cases hm : m = d
          · subst hm
            rw [item?_cons_directory, if_neg hd, Members.find?_insert_self, Option.bind_some,
              ih h ms, item?_cons_directory, if_neg hd]
            by_cases hms : ms <+: ds
            · simp [hms]
            · cases hold : Members.find? m es with
              | some u => simp [hms]
              | none =>
                -- in a new directory stands nothing but what is made in it
                rcases ms with _ | ⟨k, ks⟩
                · exact absurd List.nil_prefix hms
                · simp [hms, empty, item?_cons_directory, Members.find?]
          · simp [item?_cons_directory, Members.find?_insert_of_ne hm, List.cons_prefix_cons, hm]

/-! ### Why nothing is found -/

/-- At a path in one tree is found what is found there in another, except that it may be noticed
only in the second one that a name of the path is too long. -/
inductive Alike (names : List String) (t w : FileTree) : Prop
  | same (h : find names w = find names t)
  | noticed (hbefore : find names t = .error .notFound)
      (hafter : find names w = .error .nameTooLong) (hlong : ∃ n ∈ names, isTooLong n = true)

namespace Alike

variable {names : List String} {t u w : FileTree}

lemma refl (names : List String) (t : FileTree) : Alike names t t :=
  .same rfl

lemma trans (h : Alike names t u) (h' : Alike names u w) : Alike names t w := by
  cases h with
  | same h =>
    cases h' with
    | same h' => exact .same (h'.trans h)
    | noticed hbefore hafter hlong => exact .noticed (h.symm.trans hbefore) hafter hlong
  | noticed hbefore hafter hlong =>
    cases h' with
    | same h' => exact .noticed hbefore (h'.trans hafter) hlong
    | noticed hbefore' _ _ =>
      rw [hafter] at hbefore'
      cases hbefore'

/-- A change at a path beside this one makes no difference here. -/
lemma of_update {f : Option FileTree → Except IoFault (Option FileTree)} {changed : List String}
    (h : update f changed t = .ok w) (hs : ¬ names <+: changed) (he : ¬ changed <+: names) :
    Alike names t w :=
  .same ( find_update_of_not_prefix h hs he)

/-- Below a name that is entered the trees may differ as they do in its directory. -/
lemma cons {n : String} (hn : ¬ isTooLong n = true) {es fs : List (String × FileTree)}
    {t w : FileTree} (ht : Members.find? n es = some t) (hw : Members.find? n fs = some w)
    (h : Alike names t w) : Alike (n :: names) (.directory es) (.directory fs) := by
  have hes : find (n :: names) (.directory es) = find names t :=
    find_directory_cons (Bool.eq_false_iff.2 hn) ht
  have hfs : find (n :: names) (.directory fs) = find names w :=
    find_directory_cons (Bool.eq_false_iff.2 hn) hw
  cases h with
  | same h => exact .same (by rw [hes, hfs, h])
  | noticed hbefore hafter hlong =>
    obtain ⟨m, hm, hlong⟩ := hlong
    exact .noticed (hes.trans hbefore) (hfs.trans hafter) ⟨m, List.mem_cons_of_mem n hm, hlong⟩

end Alike

/-- In an empty directory nothing is found, or a name is too long. -/
lemma find_cons_empty (n : String) (ns : List String) :
    find (n :: ns) empty = .error (if isTooLong n then .nameTooLong else .notFound) := by
  unfold empty find
  split <;> rfl

/-- A directory that is made under a missing name is alike at every path that does not end in it. -/
lemma alike_of_find?_eq_none {n : String} (hn : ¬ isTooLong n = true)
    {es fs : List (String × FileTree)} {w : FileTree} (hes : Members.find? n es = none)
    (hfs : Members.find? n fs = some w) {names : List String} (h : Alike names empty w)
    (hne : names ≠ []) : Alike (n :: names) (.directory es) (.directory fs) := by
  obtain ⟨m, ms, rfl⟩ := List.exists_cons_of_ne_nil hne
  have hbefore : find (n :: m :: ms) (.directory es) = .error .notFound := by
    rw [find, if_neg hn, hes]
  have hafter : find (n :: m :: ms) (.directory fs) = find (m :: ms) w :=
    find_directory_cons (Bool.eq_false_iff.2 hn) hfs
  have hempty := find_cons_empty m ms
  cases h with
  | same h =>
    rw [hempty] at h
    by_cases hm : isTooLong m = true
    · exact .noticed hbefore (by rw [hafter, h, if_pos hm]) ⟨m, by simp, hm⟩
    · exact .same (by rw [hafter, h, if_neg hm, hbefore])
  | noticed _ hafter' hlong =>
    obtain ⟨k, hk, hlong⟩ := hlong
    exact .noticed hbefore (hafter.trans hafter') ⟨k, List.mem_cons_of_mem n hk, hlong⟩

/-- Directories that are made on the way to a path, as far as it goes, make no other difference at
a path that is not on that way. -/
theorem alike_makeDirectories (ds : List String) {others : List String} (t : FileTree)
    (h : ¬ others <+: ds) : Alike others t (makeDirectories ds t).2 := by
  induction ds generalizing t others with
  | nil => cases t <;> exact .refl others _
  | cons d ds ih =>
    cases t with
    | file content => exact .refl others _
    | directory es =>
      by_cases hd : isTooLong d = true
      · simp only [makeDirectories, if_pos hd]
        exact .refl others _
      · simp only [makeDirectories, if_neg hd]
        obtain ⟨m, ms, rfl⟩ : ∃ m ms, others = m :: ms :=
          List.exists_cons_of_ne_nil fun hnil => h (hnil ▸ List.nil_prefix)
        by_cases hm : m = d
        · subst hm
          have hms : ¬ ms <+: ds := fun hp => h (List.cons_prefix_cons.2 ⟨rfl, hp⟩)
          have hafter := Members.find?_insert_self m
            (makeDirectories ds ((Members.find? m es).getD empty)).2 es
          cases hold : Members.find? m es with
          | some u =>
            rw [hold] at hafter
            exact .cons hd hold hafter (ih u hms)
          | none =>
            rw [hold] at hafter
            exact alike_of_find?_eq_none hd hold hafter (ih empty hms)
              fun hnil => hms (hnil ▸ List.nil_prefix)
        · exact .same (find_directory_congr (Members.find?_insert_of_ne hm _ es))

end Tidemark.Storage.FileTree
