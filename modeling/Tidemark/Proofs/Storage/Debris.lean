import Tidemark.Proofs.Storage.Atomic

/-!
# What a failed write leaves behind

A write makes directories, fills a draft and renames it.  Each of these operations may fail, and
what has been done before it stays, unless it is taken back.  A draft that cannot be renamed is
removed, so that nothing is left but the directories that were missing (`Grown`).  A draft that
cannot be filled stays, if it was there already when its write failed
(`half_written_draft_is_left`).  No file that was there before is touched.
-/

namespace Tidemark.Storage.FileTree

open Directory

/-! ### Trees that have grown -/

/-- At names of a tree stands what stood there, or a directory on the way to another one was made
where there was nothing. -/
def GrownAt (parent names : List String) (t w : FileTree) : Prop :=
  item? names w = item? names t ∨
    names <+: parent ∧ item? names t = none ∧ item? names w = some .directory

/-- Nothing was done to a tree but to make missing directories on the way to one. -/
def Grown (parent : List String) (t w : FileTree) : Prop :=
  ∀ names, GrownAt parent names t w

/-- Nothing was done to a tree but that and something at a draft. -/
def Littered (parent : List String) (draft : String) (t w : FileTree) : Prop :=
  ∀ names, names ≠ parent ++ [draft] → GrownAt parent names t w

section Grown

variable {parent names : List String} {draft : String} {part : ByteArray} {t u w : FileTree}

lemma GrownAt.refl (parent names : List String) (t : FileTree) : GrownAt parent names t t :=
  .inl rfl

/-- Files stay. -/
lemma GrownAt.file (h : GrownAt parent names t w) {content : ByteArray}
    (hfile : item? names t = some (.file content)) : item? names w = some (.file content) := by
  rcases h with h | ⟨-, hnone, -⟩
  · exact h.trans hfile
  · rw [hfile] at hnone
    cases hnone

/-- The directories that are made on the way stood there or were missing, even if not all of them
can be made. -/
lemma grown_makeDirectories (ds : List String) (t : FileTree) :
    Grown ds t (makeDirectories ds t).2 := by
  induction ds generalizing t with
  | nil => cases t <;> exact fun names => .refl [] names _
  | cons d ds ih =>
    cases t with
    | file content => exact fun names => .refl _ names _
    | directory es =>
      intro names
      by_cases hd : isTooLong d = true
      · rw [makeDirectories, if_pos hd]
        exact .refl _ names _
      · rw [makeDirectories, if_neg hd]
        rcases names with _ | ⟨m, ms⟩
        · exact .inl rfl
        · by_cases hm : m = d
          · subst hm
            unfold GrownAt
            rw [item?_cons_directory, item?_cons_directory, if_neg hd, if_neg hd,
              Members.find?_insert_self, Option.bind_some, List.cons_prefix_cons]
            have hbelow := ih ((Members.find? m es).getD empty) ms
            cases hold : Members.find? m es with
            | some u =>
              rw [hold] at hbelow
              exact hbelow.imp_right (And.imp_left fun hms => ⟨rfl, hms⟩)
            | none =>
              rw [hold] at hbelow
              rcases hbelow with hsame | ⟨hms, -, hmade⟩
              · rcases ms with _ | ⟨k, ks⟩
                · exact .inr ⟨⟨rfl, List.nil_prefix⟩, rfl, hsame⟩
                · refine .inl (hsame.trans ?_)
                  simp [empty, item?_cons_directory, Members.find?]
              · exact .inr ⟨⟨rfl, hms⟩, rfl, hmade⟩
          · refine .inl ?_
            rw [item?_cons_directory, item?_cons_directory, Members.find?_insert_of_ne hm]

namespace Grown

/-- Directories that lie on the way to some lie on the way further down. -/
lemma mono {ds : List String} (h : Grown ds t w) (hds : ds <+: parent) : Grown parent t w :=
  fun names => (h names).imp_right (And.imp_left fun hnames => hnames.trans hds)

lemma littered (h : Grown parent t w) (draft : String) : Littered parent draft t w :=
  fun names _ => h names

end Grown

namespace Littered

/-- The draft may be written, with any bytes. -/
lemma write (h : Littered parent draft t u) (hw : write (parent ++ [draft]) part u = .ok w) :
    Littered parent draft t w := by
  intro names hne
  have hsame := item?_write hw names
  rw [if_neg hne] at hsame
  unfold GrownAt
  rw [hsame]
  exact h names hne

/-- Without its draft, which was not there before, a tree has only grown. -/
lemma remove (h : Littered parent draft t u) (hfresh : item? (parent ++ [draft]) t = none)
    (hw : remove (parent ++ [draft]) u = .ok w) : Grown parent t w := by
  intro names
  have hsame := item?_remove hw names
  by_cases hne : names = parent ++ [draft]
  · rw [if_pos hne] at hsame
    rw [hne] at hsame ⊢
    exact .inl (hsame.trans hfresh.symm)
  · rw [if_neg hne] at hsame
    unfold GrownAt
    rw [hsame]
    exact h names hne

end Littered

end Grown

/-! ### A write that fails -/

/-- The file system of a tree that is watched, in which everything that is to be removed can be. -/
def removing (above : List String) (fresh : String) : FileSystem Watched :=
  { watched above fresh with
    remove := fun p t c => ∃ w, remove (above ++ p.names) t = .ok w ∧ c = ⟨.ok (), w, []⟩ }

/-- After a failure a tree has only grown, or there is something at the draft, too, because its own
write failed. -/
def Remains (above : List String) (fresh : String) (p : DocumentPath) (t : FileTree) :
    Except BackendError Unit → FileTree → Prop
  | .ok () => fun _ => True
  | .error e => fun w => Grown (parentNames above p) t w ∨
      (∃ fault, e = .io (draft p fresh).text fault) ∧
        Littered (parentNames above p) (draftName p fresh) t w

section Failing

variable {above : List String} {fresh root : String} {l : Location} {body : Json} {p : DocumentPath}
  {t : FileTree}

/-- A draft is written, and a failure leaves what was written of it. -/
lemma keeps_write_removing (above : List String) (fresh : String) (p : DocumentPath) (body : Json)
    (t : FileTree) :
    Keeps (Grown (parentNames above p) t) (fun _ => True)
      ((removing above fresh).write (draft p fresh) (encode body))
      (Ends (Littered (parentNames above p) (draftName p fresh) t)
        (Littered (parentNames above p) (draftName p fresh) t)) := by
  dsimp only [removing, watched]
  refine .operation (fun _ _ => trivial) (fun u hu => hu.littered _) ?_ ?_
  · rintro u w hu ⟨part, hw⟩
    rw [names_draft] at hw
    exact (hu.littered _).write hw
  · intro u w hu hw
    rw [names_draft] at hw
    exact (hu.littered _).write hw

/-- Then the draft is renamed, and a failure removes it. -/
lemma keeps_replace_removing (p : DocumentPath)
    (hfresh : item? (parentNames above p ++ [draftName p fresh]) t = none) :
    Keeps (Littered (parentNames above p) (draftName p fresh) t) (fun _ => True)
      (replace (removing above fresh) p (draft p fresh)) (Remains above fresh p t) := by
  have hrename : Keeps (Littered (parentNames above p) (draftName p fresh) t) (fun _ => True)
      ((removing above fresh).rename (draft p fresh) p)
      (Ends (fun _ => True) (Littered (parentNames above p) (draftName p fresh) t)) := by
    dsimp only [removing, watched]
    exact .operation (fun _ _ => trivial) (fun _ hu => hu) (fun _ _ _ => False.elim)
      fun _ _ _ _ => trivial
  have hremove : Keeps (Littered (parentNames above p) (draftName p fresh) t) (fun _ => True)
      ((removing above fresh).remove (draft p fresh))
      (fun _ => Grown (parentNames above p) t) := by
    rintro u c hu ⟨w, hw, rfl⟩
    rw [names_draft] at hw
    exact ⟨nofun, hu.remove hfresh hw⟩
  refine hrename.bind (fun _ _ _ => trivial) ?_
  rintro (fault | ⟨⟩)
  · exact hremove.bind (fun _ _ _ => trivial) fun _ => .pure fun w hw => .inl hw
  · exact .pure fun _ _ => trivial

/-- What remains after a write that fails. -/
theorem keeps_writeAt_removing (p : DocumentPath) (body : Json)
    (hfresh : item? (parentNames above p ++ [draftName p fresh]) t = none) :
    Keeps (· = t) (fun _ => True) (writeAt (removing above fresh) p body)
      (Remains above fresh p t) := by
  have hmake : Keeps (· = t) (fun _ => True) ((watched above fresh).makeDirectories p.parent)
      (Ends (Grown (parentNames above p) t) (Grown (parentNames above p) t)) :=
    .makeDirectories (fun _ _ => trivial) fun ds hds => (grown_makeDirectories ds t).mono hds
  refine .writeAt rfl hmake (keeps_write_removing above fresh p body t)
    (keeps_replace_removing p hfresh) (fun _ _ => trivial) (fun _ _ => trivial)
    (fun _ _ => trivial) ?_ ?_
  · exact fun w _ hw => .inl hw
  · exact fun w fault hw => .inr ⟨⟨fault, rfl⟩, hw⟩

end Failing

/-- **A write that fails leaves every file, and adds at most directories and its draft.**  Let a
document be written in a tree in which there is nothing at its draft, and let each operation fail
for whatever reason, except that what is to be removed can be.  If the write fails, every file holds
what it held before.  Whatever has changed is a directory on the way to the document that was
missing, or it is the draft, and then the write of the draft has failed. -/
theorem failed_write_keeps_files {above : List String} {fresh root : String} {l : Location}
    {body : Json} {t : FileTree} {c : Course (Except BackendError Unit)} {e : BackendError}
    (hc : (backend (removing above fresh) root).write l body t c) (hfail : c.value = .error e)
    (hfresh : ∀ p, resolve root l.uri = .ok p → item? (above ++ (draft p fresh).names) t = none) :
    (∀ names content, item? names t = some (.file content) →
      item? names c.tree = some (.file content)) ∧
    ∀ names, item? names c.tree ≠ item? names t → ∃ p, resolve root l.uri = .ok p ∧
      (names <+: above ++ p.parent.names ∧ item? names c.tree = some .directory ∨
        names = above ++ (draft p fresh).names ∧ ∃ fault, e = .io (draft p fresh).text fault) := by
  cases hp : resolve root l.uri with
  | error e' =>
    have hrefused : c = ⟨.error e', t, []⟩ := by
      simp only [backend, hp] at hc
      exact hc
    rw [hrefused]
    exact ⟨fun _ _ => id, fun names hne => absurd rfl hne⟩
  | ok p =>
    rw [backend_write_of_resolve _ _ hp] at hc
    have hdraft := hfresh p hp
    rw [names_draft] at hdraft
    obtain ⟨-, hremains⟩ := keeps_writeAt_removing p body hdraft t c rfl hc
    rw [hfail] at hremains
    have hgrown : ∀ names, GrownAt (parentNames above p) names t c.tree ∨
        names = parentNames above p ++ [draftName p fresh] ∧
          ∃ fault, e = .io (draft p fresh).text fault := by
      intro names
      rcases hremains with hgrown | ⟨hfault, hlittered⟩
      · exact .inl (hgrown names)
      · by_cases hne : names = parentNames above p ++ [draftName p fresh]
        · exact .inr ⟨hne, hfault⟩
        · exact .inl (hlittered names hne)
    refine ⟨?_, ?_⟩
    · intro names content hfile
      rcases hgrown names with h | ⟨rfl, -⟩
      · exact h.file hfile
      · rw [hdraft] at hfile
        cases hfile
    · intro names hne
      refine ⟨p, rfl, ?_⟩
      rw [names_draft]
      rcases hgrown names with (hsame | ⟨hbelow, -, hmade⟩) | h
      · exact absurd hsame hne
      · exact .inl ⟨hbelow, hmade⟩
      · exact .inr h

/-! ### Failures of a write -/

/-- A draft that is written in part stays when its write fails. -/
theorem half_written_draft_is_left (body : Json) (part : ByteArray) (fault : IoFault) :
    ∃ c, (backend (removing [] "0") "/var").write ⟨"/jobs/a.json", "", []⟩ body empty c ∧
      c.value = .error (.io "/var/jobs/.a.json.0.tmp" fault) ∧ c.tree = draftTree part := by
  let p : DocumentPath := ⟨"/var", ["jobs", "a.json"]⟩
  have htext : (draft p "0").text = "/var/jobs/.a.json.0.tmp" := by
    decide +kernel
  have hmake : (removing [] "0").makeDirectories p.parent empty ⟨.ok (), madeTree, []⟩ :=
    ⟨nofun, rfl⟩
  have hwrite : (removing [] "0").write (draft p "0") (encode body) madeTree
      ⟨.error fault, draftTree part, []⟩ :=
    ⟨nofun, .inr ⟨part, rfl⟩⟩
  have hcourse : writeAt (removing [] "0") p body empty
      ⟨.error (.io (draft p "0").text fault), draftTree part,
        [madeTree, madeTree, madeTree, draftTree part, draftTree part]⟩ :=
    ⟨_, _, ⟨_, _, hmake, rfl, rfl⟩,
      ⟨_, _, rfl, ⟨_, _, ⟨_, _, hwrite, rfl, rfl⟩, rfl, rfl⟩, rfl⟩, rfl⟩
  rw [htext] at hcourse
  exact ⟨_, hcourse, rfl, rfl⟩

/-- The draft of the document of a job may be written and not be renamed. -/
lemma exists_course_unrenamed (body : Json) (fault : IoFault) :
    ∃ c, (backend (removing [] "0") "/var").write ⟨"/jobs/a.json", "", []⟩ body empty c ∧
      c.value = .error (.io "/var/jobs/a.json" fault) := by
  let p : DocumentPath := ⟨"/var", ["jobs", "a.json"]⟩
  have htext : p.text = "/var/jobs/a.json" := by
    decide +kernel
  have hmake : (removing [] "0").makeDirectories p.parent empty ⟨.ok (), madeTree, []⟩ :=
    ⟨nofun, rfl⟩
  have hwrite : (removing [] "0").write (draft p "0") (encode body) madeTree
      ⟨.ok (), draftTree (encode body), []⟩ :=
    ⟨nofun, rfl⟩
  have hrename : (removing [] "0").rename (draft p "0") p (draftTree (encode body))
      ⟨.error fault, draftTree (encode body), []⟩ :=
    ⟨nofun, .inl rfl⟩
  have hremove : (removing [] "0").remove (draft p "0") (draftTree (encode body))
      ⟨.ok (), madeTree, []⟩ :=
    ⟨madeTree, rfl, rfl⟩
  have hcourse : writeAt (removing [] "0") p body empty ⟨.error (.io p.text fault), madeTree,
      [madeTree, madeTree, madeTree, draftTree (encode body), draftTree (encode body),
        draftTree (encode body), madeTree]⟩ :=
    ⟨_, _, ⟨_, _, hmake, rfl, rfl⟩,
      ⟨_, _, rfl, ⟨_, _, ⟨_, _, hwrite, rfl, rfl⟩,
        ⟨_, _, hrename, ⟨_, _, hremove, rfl, rfl⟩, rfl⟩, rfl⟩, rfl⟩, rfl⟩
  rw [htext] at hcourse
  exact ⟨_, hcourse, rfl⟩

/-- A draft that cannot be renamed is removed. -/
theorem unrenamed_draft_is_removed :
    ∃ c, (backend (removing [] "0") "/var").write ⟨"/jobs/a.json", "", []⟩ .null empty c ∧
      c.value = .error (.io "/var/jobs/a.json" .isADirectory) ∧
      item? ["jobs", ".a.json.0.tmp"] c.tree = none := by
  obtain ⟨c, hc, hfail⟩ := exists_course_unrenamed .null .isADirectory
  have hfresh : ∀ p, resolve "/var" "/jobs/a.json" = .ok p →
      item? ([] ++ (draft p "0").names) empty = none := by
    intro p hp
    obtain rfl : ⟨"/var", ["jobs", "a.json"]⟩ = p := Except.ok.inj hp
    rfl
  obtain ⟨-, hchange⟩ := failed_write_keeps_files hc hfail hfresh
  refine ⟨c, hc, hfail, ?_⟩
  by_contra hleft
  obtain ⟨p, hp, hcause⟩ := hchange ["jobs", ".a.json.0.tmp"] hleft
  obtain rfl : ⟨"/var", ["jobs", "a.json"]⟩ = p := Except.ok.inj hp
  rcases hcause with ⟨hbelow, -⟩ | ⟨-, fault, hfault⟩
  · exact absurd hbelow (by decide)
  · have htext : "/var/jobs/a.json" ≠ (draft ⟨"/var", ["jobs", "a.json"]⟩ "0").text := by
      decide +kernel
    injection hfault with hsame
    exact htext hsame

end Tidemark.Storage.FileTree
