import Tidemark.Proofs.Storage.Below

/-!
# Computations that are watched

Between two operations on files, and while one of them goes on, others may look at the tree, and the
computation may end there for good.  `Watched` computes over a tree in all the ways in which that
can go, each with the trees that can be seen on the way (`Course`).  The operations of `watched`
pass through the trees in which they are half done and may fail in each of them, for whatever
reason.  A run over the tree itself is one of these ways (`realizes_writeAt`).

`Keeps P I x Q` says that a computation which starts in a tree with `P` is only seen in trees with
`I`, and gives a value and a tree with `Q`.  It holds of a sequence if it holds of the parts.
-/

namespace Tidemark.Storage.FileTree

open Directory

/-- One way in which a computation over a tree can go: its value, the tree that it leaves, and the
trees that can be seen before. -/
structure Course (α : Type) where
  value : α
  tree : FileTree
  seen : List FileTree

/-- A computation over a tree, as the ways in which it can go. -/
def Watched (α : Type) : Type :=
  FileTree → Course α → Prop

instance : Monad Watched where
  pure a := fun t c => c = ⟨a, t, []⟩
  bind x f := fun t c => ∃ d e, x t d ∧ f d.value d.tree e ∧
    c = ⟨e.value, e.tree, d.seen ++ d.tree :: e.seen⟩

/-- An operation that passes through some trees and ends in one of others, or fails on the way. -/
def operation (passes done : FileTree → FileTree → Prop) : Watched (Except IoFault Unit) :=
  fun t c => (∀ w ∈ c.seen, w = t ∨ passes t w) ∧
    match c.value with
    | .ok () => done t c.tree
    | .error _ => c.tree = t ∨ passes t c.tree

/-- The file system of a tree that is watched, in which the root of all paths lies at the end of
names.  Directories are made one after another, a file that is written holds any bytes before it
holds its content, and the other operations are done at once. -/
def watched (above : List String) (fresh : String) : FileSystem Watched where
  makeDirectories p :=
    operation (fun t w => ∃ ds, ds <+: above ++ p.names ∧ w = (makeDirectories ds t).2)
      fun t w => makeDirectories (above ++ p.names) t = (.ok (), w)
  write p content :=
    operation (fun t w => ∃ part, write (above ++ p.names) part t = .ok w)
      fun t w => write (above ++ p.names) content t = .ok w
  rename source target :=
    operation (fun _ _ => False)
      fun t w => rename (above ++ source.names) (above ++ target.names) t = .ok w
  remove p := operation (fun _ _ => False) fun t w => remove (above ++ p.names) t = .ok w
  read p := fun t c => c = ⟨(((fileSystemBelow above fresh).read p).run t).1, t, []⟩
  freshName := pure fresh

/-! ### What is kept by a sequence -/

section Keeps

variable {α β ε : Type} {P I F D : FileTree → Prop} {Q : α → FileTree → Prop}

/-- From a tree with `P` a computation is only seen in trees with `I`, and it ends with `Q`. -/
def Keeps (P I : FileTree → Prop) (x : Watched α) (Q : α → FileTree → Prop) : Prop :=
  ∀ t c, P t → x t c → (∀ w ∈ c.seen, I w) ∧ Q c.value c.tree

/-- A computation that may fail ends with `D`, or it fails with `F`. -/
def Ends (D F : FileTree → Prop) : Except ε Unit → FileTree → Prop
  | .ok () => D
  | .error _ => F

namespace Keeps

lemma pure {a : α} (h : ∀ t, P t → Q a t) : Keeps P I (Pure.pure a) Q := by
  rintro t c ht rfl
  exact ⟨nofun, h t ht⟩

lemma bind {R : α → FileTree → Prop} {S : β → FileTree → Prop} {x : Watched α}
    {f : α → Watched β} (hx : Keeps P I x R) (hR : ∀ a t, R a t → I t)
    (hf : ∀ a, Keeps (R a) I (f a) S) : Keeps P I (x >>= f) S := by
  rintro t c ht ⟨d, e, hd, he, rfl⟩
  obtain ⟨hseen, hend⟩ := hx t d ht hd
  obtain ⟨hseen', hend'⟩ := hf d.value d.tree e hend he
  refine ⟨?_, hend'⟩
  intro w hw
  rcases List.mem_append.1 hw with hw | hw
  · exact hseen w hw
  · rcases List.mem_cons.1 hw with rfl | hw
    · exact hR d.value d.tree hend
    · exact hseen' w hw

/-- An operation keeps what each tree on its way has. -/
lemma operation {passes done : FileTree → FileTree → Prop} (hI : ∀ t, F t → I t)
    (hstart : ∀ t, P t → F t) (hpasses : ∀ t w, P t → passes t w → F w)
    (hdone : ∀ t w, P t → done t w → D w) :
    Keeps P I (FileTree.operation passes done) (Ends D F) := by
  rintro t c ht ⟨hseen, hend⟩
  have hpassed : ∀ w, w = t ∨ passes t w → F w := by
    rintro w (rfl | hw)
    · exact hstart w ht
    · exact hpasses t w ht hw
  refine ⟨fun w hw => hI w (hpassed w (hseen w hw)), ?_⟩
  cases hvalue : c.value with
  | ok u =>
    rw [hvalue] at hend
    exact hdone t c.tree ht hend
  | error fault =>
    rw [hvalue] at hend
    exact hpassed c.tree hend

/-- The fault of an operation is reported with a path. -/
lemma attempt {x : Watched (Except IoFault Unit)} (hx : Keeps P I x (Ends D F))
    (hD : ∀ t, D t → I t) (hF : ∀ t, F t → I t) (p : DocumentPath)
    {Q : Except BackendError Unit → FileTree → Prop} (hok : ∀ t, D t → Q (.ok ()) t)
    (herror : ∀ t fault, F t → Q (.error (.io p.text fault)) t) :
    Keeps P I (Directory.attempt p x) Q := by
  refine hx.bind ?_ ?_
  · rintro (fault | ⟨⟩) t
    · exact hF t
    · exact hD t
  · rintro (fault | ⟨⟩)
    · exact .pure fun t ht => herror t fault ht
    · exact .pure hok

/-- Directories are made one after another. -/
lemma makeDirectories {above : List String} {fresh : String} {p : DocumentPath} {t : FileTree}
    {M : FileTree → Prop} (hI : ∀ w, M w → I w)
    (h : ∀ ds, ds <+: above ++ p.names → M (FileTree.makeDirectories ds t).2) :
    Keeps (· = t) I ((watched above fresh).makeDirectories p) (Ends M M) := by
  dsimp only [watched]
  refine .operation hI ?_ ?_ ?_
  · rintro u rfl
    have hstart := h [] List.nil_prefix
    cases u <;> exact hstart
  · rintro u w rfl ⟨ds, hds, rfl⟩
    exact h ds hds
  · rintro u w rfl hw
    have hmade := h _ (List.prefix_refl _)
    rwa [hw] at hmade

/-- A write is judged by its parts: directories are made, the draft is written, and it takes the
place of the document. -/
lemma writeAt {fs : FileSystem Watched} {fresh : String} (hname : fs.freshName = Pure.pure fresh)
    {p : DocumentPath} {body : Json} {M : FileTree → Prop}
    {Q : Except BackendError Unit → FileTree → Prop}
    (hmake : Keeps P I (fs.makeDirectories p.parent) (Ends M M))
    (hwrite : Keeps M I (fs.write (draft p fresh) (encode body)) (Ends D F))
    (hreplace : Keeps D I (replace fs p (draft p fresh)) Q) (hM : ∀ t, M t → I t)
    (hD : ∀ t, D t → I t) (hF : ∀ t, F t → I t)
    (hunmade : ∀ t fault, M t → Q (.error (.io p.parent.text fault)) t)
    (hunwritten : ∀ t fault, F t → Q (.error (.io (draft p fresh).text fault)) t) :
    Keeps P I (Directory.writeAt fs p body) Q := by
  have hmade : Keeps P I (Directory.attempt p.parent (fs.makeDirectories p.parent)) fun r t =>
      M t ∧ ∀ e, r = .error e → Q r t :=
    hmake.attempt hM hM p.parent (fun t ht => ⟨ht, nofun⟩)
      fun t fault ht => ⟨ht, fun _ _ => hunmade t fault ht⟩
  refine hmade.bind (fun _ _ h => hM _ h.1) ?_
  rintro (e | ⟨⟩)
  · exact .pure fun t ht => ht.2 e rfl
  rw [hname]
  -- the name of the draft is the fresh one
  refine Keeps.bind (R := fun name t => name = fresh ∧ M t) ?_ (fun _ _ h => hM _ h.2) ?_
  · exact .pure fun t ht => ⟨rfl, ht.1⟩
  rintro name t c ⟨rfl, ht⟩ hc
  have hwritten : Keeps M I (Directory.attempt (draft p name) (fs.write (draft p name)
      (encode body))) fun r t => (D t ∨ F t) ∧ match r with
        | .ok () => D t
        | .error e => Q (.error e) t :=
    hwrite.attempt hD hF (draft p name) (fun t ht => ⟨.inl ht, ht⟩)
      fun t fault ht => ⟨.inr ht, hunwritten t fault ht⟩
  refine hwritten.bind (S := Q) (fun _ t h => h.1.elim (hD t) (hF t)) ?_ t c ht hc
  rintro (e | ⟨⟩)
  · exact .pure fun t ht => ht.2
  · exact fun t c ht hc => hreplace t c ht.2 hc

end Keeps

end Keeps

/-! ### A run over the tree itself -/

section Realizes

variable {α β : Type}

/-- A run over the tree is one of the ways in which the watched computation can go. -/
def Realizes (x : StateM FileTree α) (y : Watched α) : Prop :=
  ∀ t, ∃ seen, y t ⟨(x.run t).1, (x.run t).2, seen⟩

namespace Realizes

lemma pure (a : α) : Realizes (Pure.pure a) (Pure.pure a) :=
  fun _ => ⟨[], rfl⟩

lemma bind {x : StateM FileTree α} {y : Watched α} {f : α → StateM FileTree β}
    {g : α → Watched β} (hx : Realizes x y) (hf : ∀ a, Realizes (f a) (g a)) :
    Realizes (x >>= f) (y >>= g) := by
  intro t
  obtain ⟨seen, hseen⟩ := hx t
  obtain ⟨seen', hseen'⟩ := hf (x.run t).1 (x.run t).2
  exact ⟨_, _, _, hseen, hseen', rfl⟩

lemma attempt {x : StateM FileTree (Except IoFault α)} {y : Watched (Except IoFault α)}
    (h : Realizes x y) (p : DocumentPath) :
    Realizes (Directory.attempt p x) (Directory.attempt p y) :=
  h.bind fun _ => pure _

/-- An operation that fails leaves a tree that it passes through. -/
lemma operation {f : FileTree → Outcome Unit} {passes done : FileTree → FileTree → Prop}
    (hdone : ∀ t w, f t = (.ok (), w) → done t w)
    (hfails : ∀ t fault w, f t = (.error fault, w) → w = t ∨ passes t w) (ps : List DocumentPath) :
    Realizes (guarded ps f) (FileTree.operation passes done) := by
  intro t
  refine ⟨[], nofun, ?_⟩
  rw [run_guarded]
  cases refusal? ps with
  | some fault => exact .inl rfl
  | none =>
    rcases hf : f t with ⟨fault | ⟨⟩, w⟩
    · exact hfails t fault w hf
    · exact hdone t w hf

/-- A change that fails leaves the tree as it was. -/
lemma change {g : FileTree → Except IoFault FileTree} (passes : FileTree → FileTree → Prop)
    (ps : List DocumentPath) :
    Realizes (guarded ps (FileTree.change g))
      (FileTree.operation passes fun t w => g t = .ok w) := by
  refine operation ?_ ?_ ps
  · intro t w h
    unfold FileTree.change at h
    split at h
    next u hu =>
      cases h
      exact hu
    next => cases h
  · intro t fault w h
    unfold FileTree.change at h
    split at h
    next => cases h
    next =>
      cases h
      exact .inl rfl

end Realizes

/-- A write over the tree itself is one of the ways in which a watched write can go. -/
theorem realizes_writeAt (above : List String) (fresh : String) (p : DocumentPath) (body : Json) :
    Realizes (writeAt (fileSystemBelow above fresh) p body)
      (writeAt (watched above fresh) p body) := by
  have hmake : Realizes ((fileSystemBelow above fresh).makeDirectories p.parent)
      ((watched above fresh).makeDirectories p.parent) := by
    refine .operation (fun t w h => h) ?_ _
    intro t fault w h
    exact .inr ⟨_, List.prefix_refl _, (congrArg Prod.snd h).symm⟩
  refine (hmake.attempt p.parent).bind ?_
  rintro (e | ⟨⟩)
  · exact .pure _
  refine (Realizes.pure fresh).bind ?_
  intro name
  refine ((Realizes.change _ _).attempt (draft p name)).bind ?_
  rintro (e | ⟨⟩)
  · exact .pure _
  refine (Realizes.change _ _).bind ?_
  rintro (e | ⟨⟩)
  · exact (Realizes.change _ _).bind fun _ => .pure _
  · exact .pure _

end Realizes

end Tidemark.Storage.FileTree
