import Tidemark.Proofs.Url.Reading

/-!
# Texts with one slash at their end

The slashes at the end of a text are taken away, and one is put there instead.  If the text is that
of a URL of a query service, so is the new one, and both name one place
(`exists_read_concat_slash`).  What goes wrong otherwise is that cleaning no longer drops the blanks
at the end of the text, because the slash stands behind them; in a query or a fragment they do no
harm, but there the slash is lost, too.  So the names along the two paths differ in the empty ones
at their ends, or they are the same and end in a name (`PathsAlike`).

The new text leaves one empty name at the end of its path, but others may stand before it: those
that a backslash or a dot segment has left (`SlashKept`).
-/

namespace Tidemark.Url

/-! ### Texts that end in slashes -/

/-- No blank and no control ends a text, except those that are dropped wherever they stand. -/
def EndsPlainly (text : String) : Prop :=
  ∀ c ∈ text.toList.rtakeWhile isEdge, isInvisible c = true

/-- What ends a text is neither a blank or a control nor a backslash. -/
def EndsVisibly (text : String) : Prop :=
  ∀ c ∈ text.toList.getLast?, isEdge c = false ∧ c ≠ '\\'

/-- A text that ends visibly has no blank and no control at its end. -/
lemma EndsVisibly.endsPlainly {text : String} (h : EndsVisibly text) : EndsPlainly text := by
  intro c hc
  rcases List.eq_nil_or_concat text.toList with hnil | ⟨cs, d, hconcat⟩
  · rw [hnil] at hc
    cases hc
  · rw [List.concat_eq_append] at hconcat
    have hd : isEdge d = false := by
      refine (h d ?_).1
      rw [hconcat, List.getLast?_concat]
      rfl
    rw [hconcat, List.rtakeWhile_concat_neg _ _ _ (by rw [hd]; decide)] at hc
    cases hc

/-- The slashes at the end of a text. -/
def endSlashes (text : String) : List Char :=
  text.toList.rtakeWhile (· = '/')

/-- A text without the slashes at its end. -/
def withoutSlashes (text : String) : String :=
  String.ofList (text.toList.rdropWhile (· = '/'))

/-- What is dropped anywhere is dropped at the ends of a text. -/
lemma isInvisible_eq_false {c : Char} (hc : isEdge c = false) : isInvisible c = false := by
  by_contra h
  simp only [isInvisible, Bool.not_eq_false, Bool.or_eq_true, decide_eq_true_eq] at h
  rcases h with (rfl | rfl) | rfl <;> cases hc

/-- The end of a text keeps everything before it, unless it is dropped. -/
lemma clean_append {cs ds : List Char} (hne : ds ≠ []) (hds : ∀ d ∈ ds, isEdge d = false) :
    clean (cs ++ ds) = ((cs.dropWhile isEdge).filter fun c => !isInvisible c) ++ ds := by
  have hvisible : ds.filter (fun c => !isInvisible c) = ds := by
    rw [List.filter_eq_self]
    intro d hd
    rw [isInvisible_eq_false (hds d hd)]
    rfl
  have hkept : ((cs ++ ds).dropWhile isEdge).rdropWhile isEdge = cs.dropWhile isEdge ++ ds := by
    rw [dropWhile_append_of_forall_not hds]
    obtain ⟨ds, d, rfl⟩ := (List.eq_nil_or_concat ds).resolve_left hne
    rw [List.concat_eq_append] at hds ⊢
    have hd : ¬ isEdge d = true := by
      rw [hds d (List.mem_append_right _ (List.mem_singleton_self d))]
      decide
    rw [← List.append_assoc, List.rdropWhile_concat_neg _ _ _ hd]
  change (((cs ++ ds).dropWhile isEdge).rdropWhile isEdge).filter _ = _
  rw [hkept, List.filter_append, hvisible]

/-- Slashes at the end of a text are not dropped. -/
lemma clean_append_slashes (cs : List Char) (k : ℕ) :
    clean (cs ++ List.replicate (k + 1) '/')
      = ((cs.dropWhile isEdge).filter fun c => !isInvisible c) ++ List.replicate (k + 1) '/' := by
  refine clean_append (List.cons_ne_nil _ _) fun d hd => ?_
  rw [List.eq_of_mem_replicate hd]
  decide

/-- What ends a text without its front ends the text. -/
lemma mem_rtakeWhile_of_mem_dropWhile {p q : Char → Bool} {cs : List Char} {c : Char}
    (hc : c ∈ (cs.dropWhile q).rtakeWhile p) : c ∈ cs.rtakeWhile p := by
  obtain ⟨ds, hds⟩ := (List.rtakeWhile_suffix p (cs.dropWhile q)).trans (List.dropWhile_suffix q)
  have hend : ∀ d ∈ ((cs.dropWhile q).rtakeWhile p).reverse, p d = true := fun d hd =>
    List.mem_rtakeWhile_imp (List.mem_reverse.1 hd)
  rw [← hds, List.rtakeWhile, List.reverse_append, List.takeWhile_append_of_pos hend,
    List.reverse_append, List.reverse_reverse]
  exact List.mem_append_right _ hc

/-- The slashes at the end of a text are slashes. -/
lemma append_replicate_slashes (cs : List Char) :
    cs.rdropWhile (· = '/') ++ List.replicate (cs.rtakeWhile (· = '/')).length '/' = cs := by
  have hslashes : ∀ c ∈ cs.rtakeWhile (· = '/'), c = '/' := by
    intro c hc
    exact of_decide_eq_true (List.mem_rtakeWhile_imp (p := (· = '/')) hc)
  rw [← List.eq_replicate_of_mem hslashes, List.rdropWhile_append_rtakeWhile]

/-- With a slash behind it a text keeps what cleaning drops from its end. -/
lemma clean_concat_slash (cs : List Char) : clean (cs ++ ['/']) = clean cs ++
    (((cs.dropWhile isEdge).rtakeWhile isEdge).filter (fun c => !isInvisible c) ++ ['/']) := by
  have hparts := List.rdropWhile_append_rtakeWhile (p := isEdge) (l := cs.dropWhile isEdge)
  have hclean := clean_append_slashes cs 0
  rw [← hparts, List.filter_append, List.append_assoc] at hclean
  exact hclean

/-- A text that ends visibly ends in the same character once it is cleaned. -/
lemma mem_getLast?_of_clean {text : String} (hvisible : EndsVisibly text) {c : Char}
    (hc : c ∈ (clean text.toList).getLast?) : c ∈ text.toList.getLast? := by
  rcases List.eq_nil_or_concat text.toList with hnil | ⟨cs, d, hconcat⟩
  · rw [hnil] at hc
    cases hc
  · rw [List.concat_eq_append] at hconcat
    have hlast : text.toList.getLast? = some d := by
      rw [hconcat, List.getLast?_concat]
    have hd : ∀ e ∈ [d], isEdge e = false := by
      intro e he
      obtain rfl := List.mem_singleton.1 he
      exact (hvisible e hlast).1
    rw [hconcat, clean_append (List.cons_ne_nil d []) hd, List.getLast?_concat] at hc
    rw [hlast]
    exact hc

/-- A text and the same text with one slash at its end, both cleaned: they begin alike, and only
slashes and blanks follow.  If the text ends visibly, it has slashes at its end, or ends in a
character that does not stand for a slash. -/
lemma exists_clean (text : String) : ∃ p ds,
    clean text.toList = p ++ List.replicate (endSlashes text).length '/' ∧
      clean (text.toList.rdropWhile (· = '/') ++ ['/']) = p ++ ds ∧ Uncut ds ∧
      (EndsPlainly text → ds = ['/']) ∧
      (EndsVisibly text →
        0 < (endSlashes text).length ∨ ∀ c ∈ p.getLast?, isSlash true c = false) := by
  have hslash : Uncut ['/'] := by
    constructor <;> decide
  have hparts := append_replicate_slashes text.toList
  rw [endSlashes]
  cases hk : (text.toList.rtakeWhile (· = '/')).length with
  | succ k =>
    rw [hk] at hparts
    have hclean := clean_append_slashes (text.toList.rdropWhile (· = '/')) k
    rw [hparts] at hclean
    exact ⟨_, _, hclean, clean_append_slashes _ 0, hslash, fun _ => rfl,
      fun _ => .inl (Nat.succ_pos k)⟩
  | zero =>
    rw [hk, List.replicate_zero, List.append_nil] at hparts
    rw [hparts]
    refine ⟨_, _, (List.append_nil _).symm, clean_concat_slash text.toList, ?_, ?_, ?_⟩
    · refine Uncut.append ?_ hslash
      have hedge : ∀ c ∈ ((text.toList.dropWhile isEdge).rtakeWhile isEdge).filter
          (fun c => !isInvisible c), isEdge c = true := fun c hc =>
        List.mem_rtakeWhile_imp (List.mem_of_mem_filter hc)
      exact ⟨fun h => absurd (hedge _ h) (by decide), fun h => absurd (hedge _ h) (by decide)⟩
    · intro hplain
      have hnil : ((text.toList.dropWhile isEdge).rtakeWhile isEdge).filter
          (fun c => !isInvisible c) = [] := by
        rw [List.filter_eq_nil_iff]
        intro c hc
        rw [hplain c (mem_rtakeWhile_of_mem_dropWhile hc)]
        decide
      rw [hnil]
      rfl
    · intro hvisible
      refine .inr fun c hc => ?_
      have hlast := mem_getLast?_of_clean hvisible hc
      have hslash : c ≠ '/' := by
        rintro rfl
        obtain ⟨cs, hcs⟩ := List.getLast?_eq_some_iff.1 hlast
        rw [hcs, List.rtakeWhile_concat_pos _ _ _ (by decide)] at hk
        simp at hk
      simp [isSlash, hslash, (hvisible c hlast).2]

/-! ### Paths that end in slashes -/

/-- The names along two paths: they differ in the empty ones at their ends, of which the second path
has one, or they are the same and end in a name. -/
inductive PathsAlike : List String → List String → Prop
  | slashed (names : List String) (k : ℕ) :
      PathsAlike (names ++ List.replicate k "") (names ++ [""])
  | named (names : List String) {name : String} (hne : name ≠ "") (hclear : '/' ∉ name.toList) :
      PathsAlike (names ++ [name]) (names ++ [name])

/-- The names along a path are alike. -/
lemma pathsAlike_pathNames (cs : List Char) :
    PathsAlike (pathNames true cs) (pathNames true cs) := by
  obtain ⟨names, name, hnames⟩ :=
    (List.eq_nil_or_concat (pathNames true cs)).resolve_left (pathNames_ne_nil cs)
  rw [List.concat_eq_append] at hnames
  rw [hnames]
  by_cases hname : name = ""
  · subst hname
    exact .slashed names 1
  · have hmem : name ∈ pathNames true cs := by
      rw [hnames]
      exact List.mem_append_right _ (List.mem_singleton_self name)
    exact .named names hname (not_mem_slash_of_mem_pathNames hmem)

/-- The characters along a path: a slash before each of its names. -/
def pathChars (names : List String) : List Char :=
  names.flatMap fun name => '/' :: name.toList

@[simp] lemma pathChars_append (names names' : List String) :
    pathChars (names ++ names') = pathChars names ++ pathChars names' :=
  List.flatMap_append

/-- Empty names leave nothing but slashes. -/
@[simp] lemma pathChars_replicate (k : ℕ) :
    pathChars (List.replicate k "") = List.replicate k '/' := by
  induction k with
  | zero => rfl
  | succ k ih =>
    rw [List.replicate_succ, List.replicate_succ, ← ih]
    rfl

/-- The characters along a path are its text. -/
lemma toList_render_segments (names : List String) :
    (Path.segments names).render.toList = pathChars names := by
  induction names with
  | nil => rfl
  | cons name names ih =>
    simp only [Path.render, List.map_cons, String.join_cons, String.toList_append] at ih ⊢
    rw [ih]
    rfl

/-- More slashes at the end of a text make no difference without them. -/
lemma rdropWhile_append_replicate (cs : List Char) (k : ℕ) :
    (cs ++ List.replicate k '/').rdropWhile (· = '/') = cs.rdropWhile (· = '/') := by
  induction k with
  | zero => rw [List.replicate_zero, List.append_nil]
  | succ k ih =>
    rw [List.replicate_succ', ← List.append_assoc, List.rdropWhile_concat_pos _ _ _ (by decide),
      ih]

/-- Nothing is dropped from the end of a list exactly if nothing there is to be dropped. -/
lemma rdropWhile_eq_self_iff {cs : List Char} {p : Char → Bool} :
    cs.rdropWhile p = cs ↔ cs.rtakeWhile p = [] := by
  have hparts := List.rdropWhile_append_rtakeWhile (p := p) (l := cs)
  constructor
  · intro h
    rw [h] at hparts
    exact List.append_right_eq_self.1 hparts
  · intro h
    rwa [h, List.append_nil] at hparts

/-- The slashes at the end of a path are those of its empty names, and of the path before them. -/
lemma length_endSlashes_append (names : List String) (j : ℕ) :
    (endSlashes (Path.segments (names ++ List.replicate j "")).render).length
      = j + (endSlashes (Path.segments names).render).length := by
  rw [endSlashes, endSlashes, toList_render_segments, toList_render_segments, pathChars_append,
    pathChars_replicate]
  induction j with
  | zero => rw [List.replicate_zero, List.append_nil, Nat.zero_add]
  | succ j ih =>
    rw [List.replicate_succ', ← List.append_assoc, List.rtakeWhile_concat_pos _ _ _ (by decide),
      List.length_append, ih, List.length_singleton, Nat.add_right_comm]

/-- A path that ends in a name with characters ends in the last of these. -/
lemma exists_pathChars_concat (front : List String) {name : String} (hne : name ≠ "")
    (hclear : '/' ∉ name.toList) :
    ∃ cs c, pathChars (front ++ [name]) = pathChars front ++ '/' :: cs ++ [c] ∧ c ≠ '/' := by
  obtain ⟨cs, c, hname⟩ := (List.eq_nil_or_concat name.toList).resolve_left
    fun hnil => hne (String.toList_eq_nil_iff.1 hnil)
  rw [List.concat_eq_append] at hname
  refine ⟨cs, c, ?_, ?_⟩
  · simp [pathChars, hname]
  · rintro rfl
    exact hclear (hname ▸ List.mem_append_right cs (List.mem_singleton_self _))

/-- No slash ends a path whose last name has characters. -/
lemma endSlashes_eq_nil {names : List String} (hclear : ∀ name ∈ names, '/' ∉ name.toList)
    (hlast : ∀ name ∈ names.getLast?, name ≠ "") :
    endSlashes (Path.segments names).render = [] := by
  rw [endSlashes, toList_render_segments]
  rcases List.eq_nil_or_concat names with rfl | ⟨front, name, rfl⟩
  · rfl
  · rw [List.concat_eq_append] at hclear hlast ⊢
    have hname : name ≠ "" := hlast name (by rw [List.getLast?_concat]; rfl)
    obtain ⟨cs, c, hchars, hc⟩ := exists_pathChars_concat front hname
      (hclear name (List.mem_append_right _ (List.mem_singleton_self name)))
    rw [hchars, List.rtakeWhile_concat_neg _ _ _ (by simpa using hc)]

/-- A path to which one empty name is put ends in one slash exactly if no empty names were there
but those that slashes at the end of a text have left. -/
lemma one_slash_iff {names : List String} {j k : ℕ} (hclear : ∀ name ∈ names, '/' ∉ name.toList)
    (hcount : j = max 1 k ∨ j = 0 ∧ ∀ name ∈ names.getLast?, name ≠ "") :
    (endSlashes (Path.segments (names ++ [""])).render).length = 1 ↔
      (endSlashes (Path.segments (names ++ List.replicate j "")).render).length ≤ max 1 k := by
  rw [show names ++ [""] = names ++ List.replicate 1 "" from rfl, length_endSlashes_append,
    length_endSlashes_append]
  rcases hcount with rfl | ⟨rfl, hlast⟩
  · omega
  · rw [endSlashes_eq_nil hclear hlast, List.length_nil]
    omega

/-- The second path without its last name is the first one without the slashes at its end exactly if
the second one has one slash at its end. -/
lemma PathsAlike.dropLast_iff {names names' : List String} (h : PathsAlike names names') :
    pathChars names'.dropLast = (pathChars names).rdropWhile (· = '/') ↔
      ((pathChars names').rtakeWhile (· = '/')).length = 1 := by
  cases h with
  | slashed front k =>
    have hslash : pathChars [""] = ['/'] := rfl
    rw [List.dropLast_concat, pathChars_append, pathChars_append, pathChars_replicate, hslash,
      rdropWhile_append_replicate, eq_comm, rdropWhile_eq_self_iff,
      List.rtakeWhile_concat_pos _ _ _ (by decide), List.length_append, List.length_singleton,
      Nat.add_eq_right, List.length_eq_zero_iff]
  | @named front name hne hclear =>
    obtain ⟨cs, c, hchars, hc⟩ := exists_pathChars_concat front hne hclear
    have hc : ¬ decide (c = '/') = true := by simpa using hc
    rw [List.dropLast_concat, hchars, List.rdropWhile_concat_neg (· = '/') _ c hc,
      List.rtakeWhile_concat_neg (· = '/') _ c hc]
    refine iff_of_false ?_ (by decide)
    intro hfront
    have hlength := congrArg List.length hfront
    simp at hlength

/-! ### Places -/

/-- Two URLs name one place, up to the slashes at the ends of their paths. -/
structure OnePlace (u v : Url) : Prop where
  scheme : v.scheme = u.scheme
  userInfo : v.userInfo = u.userInfo
  host : v.host = u.host
  port : v.port = u.port
  path : ∃ names names', u.path = .segments names ∧ v.path = .segments names' ∧
    PathsAlike names names'

/-- What is cut off from two texts does not belong to their places. -/
lemma OnePlace.complete {stem stem' : Stem} (h : OnePlace stem stem') (scheme : String)
    (cs cs' : List Char) : OnePlace (complete scheme cs stem) (complete scheme cs' stem') :=
  ⟨h.scheme, h.userInfo, h.host, h.port, h.path⟩

/-- What the slash at the end of the second text has made of the path: one slash ends it exactly if
the first text, which ends in a number of slashes, has left no more than these. -/
def SlashKept (k : ℕ) (u v : Url) : Prop :=
  (endSlashes v.path.render).length = 1 ↔ (endSlashes u.path.render).length ≤ max 1 k

section Special

variable {scheme : String} {stem : Stem} {q ds : List Char} {k : ℕ}

/-- A stem followed by slashes and the same stem followed by one slash name the same place. -/
lemma exists_readSpecial_concat_slash (hspecial : isSpecial scheme = true) {final : Bool}
    (h : readSpecial scheme final (q ++ List.replicate k '/') = .ok stem) (final' : Bool) :
    ∃ stem', readSpecial scheme final' (q ++ ['/']) = .ok stem' ∧ OnePlace stem stem' ∧
      (0 < k ∨ (∀ c ∈ q.getLast?, isSlash true c = false) → SlashKept k stem stem') := by
  obtain ⟨names, j, hpath, hclear, hcount, hread⟩ := readSpecial_slashes hspecial h
  refine ⟨_, hread final', ⟨rfl, rfl, rfl, rfl, _, _, hpath, rfl, .slashed names j⟩, ?_⟩
  intro hend
  rw [SlashKept, hpath]
  exact one_slash_iff hclear (hcount hend)

/-- A stem names one place. -/
lemma onePlace_of_readSpecial (hspecial : isSpecial scheme = true) {final : Bool}
    (h : readSpecial scheme final q = .ok stem) : OnePlace stem stem := by
  obtain ⟨a, rest, -, rfl⟩ := (readSpecial_eq_ok_iff hspecial).1 h
  exact ⟨rfl, rfl, rfl, rfl, _, _, rfl, rfl, pathsAlike_pathNames _⟩

/-- Slashes begin neither a query nor a fragment. -/
lemma uncut_replicate (k : ℕ) : Uncut (List.replicate k '/') := by
  constructor <;> intro hmem <;> exact absurd (List.eq_of_mem_replicate hmem) (by decide)

/-- The end of a text belongs to its stem, and then it may be one slash instead of others; or it is
cut off with the query and the fragment, and then it does not matter. -/
lemma exists_readSpecial_front (hspecial : isSpecial scheme = true) (hds : Uncut ds)
    (hone : Uncut q → ds = ['/'])
    (h : readSpecial scheme (atEnd (q ++ List.replicate k '/')) (front (q ++ List.replicate k '/'))
      = .ok stem) :
    ∃ stem', readSpecial scheme (atEnd (q ++ ds)) (front (q ++ ds)) = .ok stem' ∧
      OnePlace stem stem' ∧ (¬ Uncut q → stem' = stem) ∧
      (Uncut q → 0 < k ∨ (∀ c ∈ q.getLast?, isSlash true c = false) → SlashKept k stem stem') := by
  by_cases hq : Uncut q
  · rw [(hq.append (uncut_replicate k)).cut_eq.1] at h
    rw [(hq.append hds).cut_eq.1, hone hq]
    obtain ⟨stem', hread, hplace, hkept⟩ := exists_readSpecial_concat_slash hspecial h _
    exact ⟨stem', hread, hplace, fun hcut => absurd hq hcut, fun _ => hkept⟩
  · obtain ⟨a, ha⟩ := front_append_of_not_uncut hq
    obtain ⟨hfront, hend⟩ := ha _ (uncut_replicate k)
    obtain ⟨hfront', hend'⟩ := ha ds hds
    rw [hfront, hend] at h
    rw [hfront', hend']
    exact ⟨stem, h, onePlace_of_readSpecial hspecial h, fun _ => rfl,
      fun huncut => absurd huncut hq⟩

end Special

/-- The URLs of query services. -/
def IsWeb (u : Url) : Prop :=
  u.scheme = "http" ∨ u.scheme = "https"

/-- The schemes of query services have rules for hosts and do not name files. -/
lemma IsWeb.kind {u : Url} (h : u.IsWeb) :
    isFile u.scheme = false ∧ isSpecial u.scheme = true := by
  rcases h with h | h
  · rw [h]
    decide
  · rw [h]
    decide

lemma IsWeb.readStem_eq {u : Url} (h : u.IsWeb) : readStem u.scheme = readSpecial u.scheme := by
  funext final cs
  rw [readStem, h.kind.1, h.kind.2]
  rfl

/-- With one slash at its end a text is still read, and names the same place.  If it has a query or
a fragment, its path is the same. -/
lemma exists_read_concat_slash {text : String} {u : Url} (h : read text = .ok u) (hweb : u.IsWeb)
    (hplain : EndsPlainly text ∨ u.query ≠ none ∨ u.fragment ≠ none) :
    ∃ v, read (String.ofList (text.toList.rdropWhile (· = '/') ++ ['/'])) = .ok v ∧
      OnePlace u v ∧ (u.query ≠ none ∨ u.fragment ≠ none → v.path = u.path) ∧
      (EndsVisibly text → u.query = none → u.fragment = none →
        SlashKept (endSlashes text).length u v) := by
  obtain ⟨cs, stem, hsplit, hstem, hu⟩ := exists_of_read_eq_ok h
  obtain ⟨p, ds, hclean, hclean', hds, hslash, hvisible⟩ := exists_clean text
  rw [hclean] at hsplit
  obtain ⟨q, rfl, hsuffix, hsplit'⟩ :=
    splitScheme_append (fun d hd => List.eq_of_mem_replicate hd) hsplit
  have hcut : Uncut q → u.query = none ∧ u.fragment = none := by
    intro hq
    obtain ⟨-, hquery, hfragment⟩ := (hq.append (uncut_replicate _)).cut_eq
    rw [hu, complete, hquery, hfragment]
    exact ⟨rfl, rfl⟩
  have huncut : u.query = none → u.fragment = none → Uncut q := by
    intro hquery hfragment
    rw [hu] at hquery hfragment
    have hwhole := uncut_of_none (Option.map_eq_none_iff.1 hquery)
      (Option.map_eq_none_iff.1 hfragment)
    exact ⟨fun hmem => hwhole.1 (List.mem_append_left _ hmem),
      fun hmem => hwhole.2 (List.mem_append_left _ hmem)⟩
  have hone : Uncut q → ds = ['/'] := by
    intro hq
    obtain ⟨hquery, hfragment⟩ := hcut hq
    exact hslash (hplain.resolve_right fun h => h.elim (· hquery) (· hfragment))
  rw [hweb.readStem_eq] at hstem
  obtain ⟨stem', hstem', hplace, hsame, hkept⟩ :=
    exists_readSpecial_front hweb.kind.2 hds hone hstem
  have hread := hsplit' ds
  rw [← hclean', ← String.toList_ofList (l := _ ++ ['/'])] at hread
  refine ⟨complete u.scheme (q ++ ds) stem', ?_, ?_, ?_, ?_⟩
  · rw [read_of_splitScheme hread, hweb.readStem_eq, hstem']
    rfl
  · have hcomplete := hplace.complete u.scheme
      (q ++ List.replicate (endSlashes text).length '/') (q ++ ds)
    rwa [← hu] at hcomplete
  · intro hqueried
    have hstem_eq : stem' = stem :=
      hsame fun hq => hqueried.elim (· (hcut hq).1) (· (hcut hq).2)
    rw [hstem_eq, hu]
    rfl
  · intro hends hquery hfragment
    have hq := hkept (huncut hquery hfragment) ((hvisible hends).imp_right fun hlast c hc =>
      hlast c (mem_getLast?_of_suffix hsuffix hc))
    rw [SlashKept] at hq ⊢
    rw [hu]
    exact hq

end Tidemark.Url
