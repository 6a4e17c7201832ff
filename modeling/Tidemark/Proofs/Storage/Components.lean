import Mathlib.Data.List.Basic
import Tidemark.Proofs.Text.Pieces
import Tidemark.Storage.Directory

/-!
# The components of a path

Walking along the components of a URI meets the segments of the URI: what stands between its
slashes, without empty pieces and single dots (`ofUri?_eq_some_iff`).  Putting a name at the end of
a directory adds one component (`components_join`), so that the path of a document has the
components of its root and behind them the segments of its URI (`components_text`).  None of these
leads upwards, and they can be told from the path again (`documents_stay_below_root`).
-/

namespace Tidemark.Storage

open Text (pieces)

namespace Component

/-- A slash separates components. -/
lemma along_append_cons (cs ds : List Char) : along (cs ++ '/' :: ds) = along cs ++ along ds := by
  rw [along, Text.pieces_append_cons, List.filter_append, List.map_append]
  rfl

/-- Where a path begins is told by what stands before its first slash. -/
lemma start_append_cons {cs : List Char} (hcs : cs ≠ []) (ds : List Char) :
    start (cs ++ '/' :: ds) = start cs := by
  obtain ⟨c, cs, rfl⟩ := List.exists_cons_of_ne_nil hcs
  obtain ⟨p, ps, hps⟩ := List.exists_cons_of_ne_nil (Text.pieces_ne_nil '/' (c :: cs))
  rw [start, start, Text.pieces_append_cons, hps]
  rfl

end Component

open Component (along start)

/-- The segments of a URI: what stands between its slashes, without empty ones and single dots. -/
def segments (uri : String) : List String :=
  ((uri.toList.splitOn '/').filter fun p => p ≠ [] ∧ p ≠ ['.']).map String.ofList

namespace DocumentPath

/-! ### Walking along the components of a URI -/

/-- A walk along pieces meets the pieces that count, unless one of them is a double dot. -/
lemma walk?_map_ofPiece (ps : List (List Char)) :
    walk? (ps.map Component.ofPiece)
      = if ['.', '.'] ∈ ps then none else some (ps.map String.ofList) := by
  induction ps with
  | nil => rfl
  | cons p ps ih =>
    rw [List.map_cons, Component.ofPiece]
    by_cases hp : p = ['.', '.']
    · rw [if_pos hp, if_pos (List.mem_cons.2 (.inl hp.symm))]
      rfl
    · rw [if_neg hp, walk?, ih]
      by_cases hps : ['.', '.'] ∈ ps
      · rw [if_pos hps, if_pos (List.mem_cons_of_mem p hps)]
        rfl
      · have hcons : ['.', '.'] ∉ p :: ps := by
          rw [List.mem_cons, not_or]
          exact ⟨fun h => hp h.symm, hps⟩
        rw [if_neg hps, if_neg hcons]
        rfl

/-- Where no slash stands, a path begins with a single dot at most, and the walk passes over it. -/
lemma walk?_components {cs : List Char} (hslash : cs.head? ≠ some '/') :
    walk? (start cs ++ along cs) = walk? (along cs) := by
  rw [start, if_neg hslash]
  split <;> rfl

/-- Slashes at the beginning of a text separate nothing. -/
lemma filter_pieces_dropWhile (cs : List Char) :
    (pieces '/' (cs.dropWhile (· = '/'))).filter Component.counts
      = (pieces '/' cs).filter Component.counts := by
  induction cs with
  | nil => rfl
  | cons c cs ih =>
    by_cases hc : c = '/'
    · subst hc
      rw [List.dropWhile_cons_of_pos (by decide), ih, ← List.nil_append ('/' :: cs),
        Text.pieces_append_cons]
      rfl
    · rw [List.dropWhile_cons_of_neg (by simpa using hc)]

/-- No slash begins a URI without the slashes that begin it. -/
lemma head?_dropWhile_slash (cs : List Char) : (cs.dropWhile (· = '/')).head? ≠ some '/' := by
  intro h
  have hnot := List.head?_dropWhile_not (· = '/') cs
  rw [h] at hnot
  simp at hnot

/-- The walk along a URI meets its segments, unless one of them is a double dot. -/
lemma walk?_relative (uri : String) : walk? (components (relative uri))
    = if ".." ∈ segments uri then none else some (segments uri) := by
  have hsegments : segments uri
      = ((pieces '/' (uri.toList.dropWhile (· = '/'))).filter Component.counts).map
          String.ofList := by
    rw [filter_pieces_dropWhile, Text.pieces_eq_splitOn]
    rfl
  rw [components, relative, String.toList_ofList, walk?_components (head?_dropWhile_slash _), along,
    walk?_map_ofPiece, hsegments]
  refine if_congr ?_ rfl rfl
  have habove : ".." = String.ofList ['.', '.'] := by decide +kernel
  rw [habove]
  exact (List.mem_map_of_injective fun _ _ => String.ofList_injective).symm

/-- **A URI is a path exactly if it has segments and none of them is a double dot**, and the path
is made of them. -/
theorem ofUri?_eq_some_iff {root uri : String} {p : DocumentPath} :
    ofUri? root uri = some p ↔
      segments uri ≠ [] ∧ ".." ∉ segments uri ∧ p = ⟨root, segments uri⟩ := by
  rw [ofUri?, walk?_relative]
  by_cases habove : ".." ∈ segments uri
  · rw [if_pos habove]
    exact ⟨nofun, fun h => absurd habove h.2.1⟩
  · rw [if_neg habove]
    by_cases hempty : segments uri = []
    · rw [hempty]
      exact ⟨nofun, fun h => absurd rfl h.1⟩
    · rw [Option.filter_some, if_pos (by simpa using hempty), Option.map_some, Option.some.injEq]
      exact ⟨fun h => ⟨hempty, habove, h.symm⟩, fun h => h.2.2.symm⟩

/-! ### Names at the end of a path -/

/-- A name that can stand between two slashes and leads downwards. -/
def Proper (s : String) : Prop :=
  s ≠ "" ∧ s ≠ "." ∧ s ≠ ".." ∧ '/' ∉ s.toList

/-- Segments are proper, unless they lead upwards. -/
lemma proper_of_mem_segments {uri s : String} (hs : s ∈ segments uri) (habove : s ≠ "..") :
    Proper s := by
  obtain ⟨p, hp, rfl⟩ := List.mem_map.1 hs
  obtain ⟨hpiece, hcounts⟩ := List.mem_filter.1 hp
  obtain ⟨hne, hdot⟩ := of_decide_eq_true hcounts
  rw [← Text.pieces_eq_splitOn] at hpiece
  refine ⟨String.ofList_eq_empty_iff.not.2 hne, ?_, habove, ?_⟩
  · intro h
    exact hdot (String.ofList_injective h)
  · rw [String.toList_ofList]
    exact Text.not_mem_of_mem_pieces hpiece

/-- A proper name is one component. -/
lemma Proper.along_eq {s : String} (hs : Proper s) : along s.toList = [.name s] := by
  obtain ⟨hne, hdot, habove, hslash⟩ := hs
  have hne' : s.toList ≠ [] := String.toList_eq_nil_iff.not.2 hne
  have hdot' : s.toList ≠ ['.'] := fun h => hdot (String.toList_inj.1 h)
  have habove' : s.toList ≠ ['.', '.'] := fun h => habove (String.toList_inj.1 h)
  rw [along, Text.pieces_of_not_mem hslash]
  simp [hdot', Component.counts, hne', Component.ofPiece, habove']

/-- A path does not begin with a proper name in any other way. -/
lemma Proper.start_eq {s : String} (hs : Proper s) : start s.toList = [] := by
  obtain ⟨-, hdot, -, hslash⟩ := hs
  have hdot' : s.toList ≠ ['.'] := fun h => hdot (String.toList_inj.1 h)
  have hhead : s.toList.head? ≠ some '/' := fun h => hslash (List.mem_of_head? h)
  rw [start, if_neg hhead, Text.pieces_of_not_mem hslash]
  simp [hdot']

/-- **A name at the end of a directory is one component more.** -/
theorem components_join (directory : String) {name : String} (hname : Proper name) :
    components (join directory name) = components directory ++ [.name name] := by
  unfold join components
  split
  · next h =>
    rcases h with rfl | hslash
    · -- nothing stands before the name
      rw [String.empty_append, hname.start_eq, hname.along_eq]
      rfl
    · -- the slash is there already
      obtain ⟨cs, hcs⟩ := List.getLast?_eq_some_iff.1 hslash
      have hstart : start (cs ++ '/' :: name.toList) = start (cs ++ ['/']) := by
        rcases eq_or_ne cs [] with rfl | hne
        · rfl
        · rw [Component.start_append_cons hne, Component.start_append_cons hne]
      have hempty : along [] = [] := rfl
      rw [String.toList_append, hcs, List.append_assoc, List.singleton_append, hstart,
        Component.along_append_cons, Component.along_append_cons, hname.along_eq, hempty,
        List.append_nil, List.append_assoc]
  · next h =>
    have hne : directory.toList ≠ [] := fun h' => h (.inl (String.toList_eq_nil_iff.1 h'))
    have htext : (directory ++ "/" ++ name).toList = directory.toList ++ '/' :: name.toList := by
      simp
    rw [htext, Component.start_append_cons hne, Component.along_append_cons, hname.along_eq,
      List.append_assoc]

/-- Names at the end of a directory are as many components more. -/
lemma components_foldl_join (directory : String) {names : List String}
    (hnames : ∀ s ∈ names, Proper s) :
    components (names.foldl join directory) = components directory ++ names.map .name := by
  induction names generalizing directory with
  | nil => rw [List.map_nil, List.append_nil, List.foldl_nil]
  | cons s names ih =>
    rw [List.foldl_cons, ih (join directory s) fun t ht => hnames t (List.mem_cons_of_mem s ht),
      components_join directory (hnames s List.mem_cons_self), List.append_assoc]
    rfl

/-- A directory text with the slash that stands between it and a name. -/
def separated (directory : String) : String :=
  if directory = "" ∨ directory.toList.getLast? = some '/' then directory else directory ++ "/"

lemma join_eq (directory name : String) : join directory name = separated directory ++ name := by
  unfold join separated
  split <;> rfl

/-- Between proper names stands one slash. -/
lemma separated_join (directory : String) {name : String} (hname : Proper name) :
    separated (join directory name) = join directory name ++ "/" := by
  obtain ⟨hne, -, -, hslash⟩ := hname
  obtain ⟨cs, c, hcs⟩ := (List.eq_nil_or_concat name.toList).resolve_left
    (String.toList_eq_nil_iff.not.2 hne)
  rw [List.concat_eq_append] at hcs
  have hc : c ≠ '/' := by
    rintro rfl
    exact hslash (hcs ▸ List.mem_append_right cs (List.mem_singleton_self _))
  have htext : (join directory name).toList = (separated directory).toList ++ cs ++ [c] := by
    rw [join_eq, String.toList_append, hcs, List.append_assoc]
  have hempty : join directory name ≠ "" := by
    intro h
    rw [h] at htext
    simp at htext
  have hlast : (join directory name).toList.getLast? ≠ some '/' := by
    rw [htext, List.getLast?_concat]
    exact fun h => hc (Option.some.inj h)
  rw [separated, if_neg (not_or.2 ⟨hempty, hlast⟩)]

/-- Names at the end of a directory stand behind it with slashes between them. -/
lemma foldl_join_eq (directory name : String) {names : List String}
    (hnames : ∀ s ∈ name :: names, Proper s) :
    (name :: names).foldl join directory
      = separated directory ++ String.intercalate "/" (name :: names) := by
  induction names generalizing directory name with
  | nil => rw [List.foldl_cons, List.foldl_nil, join_eq, String.intercalate_singleton]
  | cons s names ih =>
    have hname : Proper name := hnames name List.mem_cons_self
    rw [List.foldl_cons,
      ih (join directory name) s fun t ht => hnames t (List.mem_cons_of_mem _ ht),
      separated_join directory hname, join_eq, String.intercalate_cons_cons]
    simp only [String.append_assoc]

/-! ### The path of a document -/

/-- What is accepted has proper segments. -/
lemma proper_of_resolve {root uri : String} {p : DocumentPath}
    (h : Directory.resolve root uri = .ok p) : ∀ s ∈ segments uri, Proper s := by
  unfold Directory.resolve at h
  split at h
  · next hp =>
    obtain ⟨-, habove, -⟩ := ofUri?_eq_some_iff.1 hp
    intro s hs
    apply proper_of_mem_segments hs
    rintro rfl
    exact habove hs
  · cases h

/-- What is accepted has segments, and its path is made of them. -/
lemma eq_of_resolve {root uri : String} {p : DocumentPath}
    (h : Directory.resolve root uri = .ok p) :
    segments uri ≠ [] ∧ p = ⟨root, segments uri⟩ := by
  unfold Directory.resolve at h
  split at h
  · next hp =>
    obtain ⟨hne, -, heq⟩ := ofUri?_eq_some_iff.1 hp
    obtain rfl := Except.ok.inj h
    exact ⟨hne, heq⟩
  · cases h

/-- The text of a path with names is what joining them to the root gives. -/
lemma text_eq_foldl_join {root : String} {names : List String} (hne : names ≠ []) :
    text ⟨root, names⟩ = names.foldl join root := by
  obtain ⟨name, names, rfl⟩ := List.exists_cons_of_ne_nil hne
  rfl

/-- The path of a document has the components of the root, and behind them the segments of its
URI. -/
lemma components_text {root uri : String} {p : DocumentPath}
    (h : Directory.resolve root uri = .ok p) :
    components p.text = components root ++ (segments uri).map .name := by
  obtain ⟨hne, rfl⟩ := eq_of_resolve h
  rw [text_eq_foldl_join hne, components_foldl_join root (proper_of_resolve h)]

/-- The path of a document is written as the root and, behind it, the segments of its URI with one
slash between them. -/
lemma text_eq {root uri : String} {p : DocumentPath} (h : Directory.resolve root uri = .ok p) :
    p.text = separated root ++ String.intercalate "/" (segments uri) := by
  have hproper := proper_of_resolve h
  obtain ⟨hne, rfl⟩ := eq_of_resolve h
  rw [text_eq_foldl_join hne]
  obtain ⟨s, names, hs⟩ := List.exists_cons_of_ne_nil hne
  rw [hs] at hproper ⊢
  exact foldl_join_eq root s hproper

/-- Two documents below one root have the same path exactly if their URIs have the same segments,
whether paths are compared by their text or by their components. -/
lemma same_path_iff {root uri uri' : String} {p p' : DocumentPath}
    (h : Directory.resolve root uri = .ok p) (h' : Directory.resolve root uri' = .ok p') :
    (p'.text = p.text ↔ segments uri' = segments uri) ∧
      (components p'.text = components p.text ↔ segments uri' = segments uri) := by
  have hcomponents : components p'.text = components p.text ↔ segments uri' = segments uri := by
    rw [components_text h, components_text h', List.append_cancel_left_eq,
      List.map_inj_right fun _ _ => Component.name.inj]
  refine ⟨⟨fun htext => hcomponents.1 (congrArg components htext), fun hsegments => ?_⟩,
    hcomponents⟩
  rw [text_eq h, text_eq h', hsegments]

end DocumentPath

namespace Directory

open DocumentPath

/-- A URI that has segments and no double dot among them names a document. -/
lemma resolve_eq_ok {root uri : String} (hne : segments uri ≠ []) (habove : ".." ∉ segments uri) :
    resolve root uri = .ok ⟨root, segments uri⟩ := by
  have hpath : ofUri? root uri = some ⟨root, segments uri⟩ :=
    ofUri?_eq_some_iff.2 ⟨hne, habove, rfl⟩
  rw [resolve, hpath]

/-- Any other URI is refused. -/
lemma resolve_eq_error {root uri : String} (h : segments uri = [] ∨ ".." ∈ segments uri) :
    resolve root uri = .error (.invalidUri uri) := by
  have hpath : ofUri? root uri = none := by
    refine Option.eq_none_iff_forall_ne_some.2 fun p hp => ?_
    obtain ⟨hne, habove, -⟩ := ofUri?_eq_some_iff.1 hp
    exact h.elim hne habove
  rw [resolve, hpath]

/-- **Documents stay below the root directory.**  A URI is accepted exactly if it has segments and
none of them is a double dot, and is refused as an invalid URI otherwise.  The path of an accepted
one is the root and behind it, with single slashes, the segments; so its components are those of the
root and at least one more, none of which is empty, a dot or a double dot.  Two accepted URIs have
the same path exactly if they have the same segments. -/
theorem documents_stay_below_root (root uri : String) :
    (segments uri ≠ [] ∧ ".." ∉ segments uri → ∃ p, resolve root uri = .ok p ∧
      p.text = separated root ++ String.intercalate "/" (segments uri) ∧
      components p.text = components root ++ (segments uri).map .name ∧
      (∀ s ∈ segments uri, s ≠ "" ∧ s ≠ "." ∧ s ≠ ".." ∧ '/' ∉ s.toList) ∧
      ∀ uri' p', resolve root uri' = .ok p' →
        (p'.text = p.text ↔ segments uri' = segments uri) ∧
        (components p'.text = components p.text ↔ segments uri' = segments uri)) ∧
    (segments uri = [] ∨ ".." ∈ segments uri → resolve root uri = .error (.invalidUri uri)) := by
  refine ⟨?_, resolve_eq_error⟩
  rintro ⟨hne, habove⟩
  have hp : resolve root uri = .ok ⟨root, segments uri⟩ := resolve_eq_ok hne habove
  exact ⟨_, hp, text_eq hp, components_text hp, proper_of_resolve hp,
    fun uri' p' hp' => same_path_iff hp hp'⟩

/-- A URI with repeated slashes and a single dot has two segments below its root. -/
theorem roundabout_uri_stays_below_root :
    resolve "/data/" "//jobs/./authors.json/" = .ok ⟨"/data/", ["jobs", "authors.json"]⟩ ∧
    ∃ p, resolve "/data/" "//jobs/./authors.json/" = .ok p ∧ p.text = "/data/jobs/authors.json" ∧
      components p.text
        = [.root, .name "data", .name "jobs", .name "authors.json"] := by
  have hsegments : segments "//jobs/./authors.json/" = ["jobs", "authors.json"] := by decide +kernel
  have hpath : resolve "/data/" "//jobs/./authors.json/"
      = .ok ⟨"/data/", ["jobs", "authors.json"]⟩ := by
    decide +kernel
  have hne : segments "//jobs/./authors.json/" ≠ [] := by decide +kernel
  have habove : ".." ∉ segments "//jobs/./authors.json/" := by decide +kernel
  obtain ⟨p, hp, htext, hcomponents, -, -⟩ :=
    (documents_stay_below_root "/data/" "//jobs/./authors.json/").1 ⟨hne, habove⟩
  have hroot : components "/data/" = [.root, .name "data"] := by decide +kernel
  have hfile : separated "/data/" ++ String.intercalate "/" ["jobs", "authors.json"]
      = "/data/jobs/authors.json" := by
    decide +kernel
  refine ⟨hpath, p, hp, ?_, ?_⟩
  · rw [htext, hsegments, hfile]
  · rw [hcomponents, hsegments, hroot]
    rfl

end Directory

end Tidemark.Storage
