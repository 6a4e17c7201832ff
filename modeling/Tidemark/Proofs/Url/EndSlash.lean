import Mathlib.Data.List.DropRight
import Mathlib.Tactic.Common
import Tidemark.Proofs.Text.Pieces
import Tidemark.Proofs.Url.Percent
import Tidemark.Url.Parse

/-!
# Slashes at the end of a URL

A URL of a special scheme is read from a text at whose end slashes are put in or taken away.  As
long as the text goes on with nothing but slashes, its authority is the same (`readAuthority_atEnd`,
`readSpecial_slashes`), and its path differs in the empty names at its end alone
(`pathNames_slashes`): every slash leaves an empty segment behind it, and walking along an empty
segment adds an empty name.  No name of a path holds a slash (`not_mem_slash_of_mem_pathNames`),
so that the slashes of a path stand between its names.
-/

namespace Tidemark

/-! ### Lists -/

section Lists

variable {α : Type} {p : α → Bool} {xs ys : List α}

/-- Elements that do not belong to it do not make the front of a list longer. -/
lemma takeWhile_append_of_forall_not (h : ∀ y ∈ ys, p y = false) :
    (xs ++ ys).takeWhile p = xs.takeWhile p := by
  induction xs with
  | nil =>
    cases ys with
    | nil => rfl
    | cons y ys => simp [h y]
  | cons x xs ih =>
    rw [List.cons_append, List.takeWhile_cons, List.takeWhile_cons, ih]

/-- Elements that do not belong to the front of a list stay behind it. -/
lemma dropWhile_append_of_forall_not (h : ∀ y ∈ ys, p y = false) :
    (xs ++ ys).dropWhile p = xs.dropWhile p ++ ys := by
  induction xs with
  | nil =>
    cases ys with
    | nil => rfl
    | cons y ys => simp [h y]
  | cons x xs ih =>
    rw [List.cons_append, List.dropWhile_cons, List.dropWhile_cons]
    split
    · exact ih
    · rfl

/-- The last element of the end of a list is the last element of the list. -/
lemma mem_getLast?_of_suffix {x : α} (h : xs <:+ ys) (hx : x ∈ xs.getLast?) : x ∈ ys.getLast? := by
  obtain ⟨zs, rfl⟩ := h
  rw [List.getLast?_append, Option.mem_def.1 hx]
  rfl

end Lists

namespace Url

open Text (pieces)

/-! ### Walking along segments -/

namespace Trail

/-- The path after a segment that others follow. -/
def stride (t : Trail) (s : List Char) : Trail :=
  if isDoubleDot s then t.up else if isSingleDot s then t else t.extend false s

/-- The path after its last segment. -/
def arrive (t : Trail) (s : List Char) : Trail :=
  if isDoubleDot s then t.up.add [] else if isSingleDot s then t.add [] else t.extend false s

@[simp] lemma extend_false (t : Trail) (s : List Char) : t.extend false s = t.add s := by
  simp [extend]

@[simp] lemma stride_nil (t : Trail) : t.stride [] = t.add [] :=
  extend_false t []

@[simp] lemma arrive_nil (t : Trail) : t.arrive [] = t.add [] :=
  extend_false t []

@[simp] lemma names_add_nil (t : Trail) : (t.add []).names = t.names ++ [""] :=
  rfl

/-- A segment that has characters adds a name that has some. -/
lemma ne_empty_of_mem_getLast?_add {t : Trail} {s : List Char} (hs : s ≠ []) :
    ∀ name ∈ (t.add s).names.getLast?, name ≠ "" := by
  intro name hname
  obtain rfl : String.ofList (Percent.encode Percent.inPath s) = name := by
    simpa [add] using hname
  rw [Ne, String.ofList_eq_empty_iff]
  exact Percent.encode_ne_nil hs

/-- Every empty segment adds an empty name. -/
lemma names_stride_replicate (t : Trail) (k : ℕ) :
    ((List.replicate k []).foldl stride t).names = t.names ++ List.replicate k "" := by
  induction k with
  | zero => simp
  | succ k ih =>
    rw [List.replicate_succ', List.foldl_append, List.replicate_succ', ← List.append_assoc, ← ih]
    simp

/-- A last segment leads where it would lead if others followed it; a dot segment leaves an empty
name there, and any other one is the last name itself. -/
lemma names_arrive (t : Trail) (s : List Char) :
    (t.arrive s).names = (t.stride s).names ++ [""] ∨
      (t.arrive s).names = (t.stride s).names ∧ t.stride s = t.add s := by
  unfold stride arrive
  split
  · exact .inl rfl
  · split
    · exact .inl rfl
    · exact .inr ⟨rfl, extend_false t s⟩

end Trail

/-- A walk goes on along all segments but the last one, and then arrives. -/
lemma walk_concat (ss : List (List Char)) (s : List Char) (t : Trail) :
    walk false (ss ++ [s]) t = (ss.foldl Trail.stride t).arrive s := by
  induction ss generalizing t with
  | nil => rfl
  | cons s' ss ih =>
    have hstep : walk false (s' :: (ss ++ [s])) t = walk false (ss ++ [s]) (t.stride s') := by
      cases ss <;> rfl
    exact hstep.trans (ih (t.stride s'))

/-- The names along segments that others follow. -/
def namesAlong (ss : List (List Char)) : List String :=
  (ss.foldl Trail.stride Trail.start).names

/-- A walk along segments and along empty ones behind them: however many there are, the names differ
in the empty ones at the end alone.  There are as many of these as there are empty segments; if
there are none, a last segment that has characters leaves one empty name or is the last name. -/
lemma names_walk_append_replicate {ss : List (List Char)} (hss : ss ≠ []) (k : ℕ) :
    ∃ j, (walk false (ss ++ List.replicate k []) Trail.start).names
        = namesAlong ss ++ List.replicate j "" ∧
      (0 < k ∨ (∀ s ∈ ss.getLast?, s ≠ []) →
        j = max 1 k ∨ j = 0 ∧ ∀ name ∈ (namesAlong ss).getLast?, name ≠ "") := by
  cases k with
  | zero =>
    obtain ⟨front, s, rfl⟩ := (List.eq_nil_or_concat ss).resolve_left hss
    have hwalk : (walk false (front.concat s ++ List.replicate 0 []) Trail.start).names
        = ((front.foldl Trail.stride Trail.start).arrive s).names := by
      rw [List.concat_eq_append, List.replicate_zero, List.append_nil, walk_concat]
    have halong : namesAlong (front.concat s)
        = ((front.foldl Trail.stride Trail.start).stride s).names := by
      rw [namesAlong, List.concat_eq_append, List.foldl_append]
      rfl
    rw [hwalk, halong]
    rcases (front.foldl Trail.stride Trail.start).names_arrive s with hdots | ⟨hname, hadd⟩
    · exact ⟨1, hdots, fun _ => .inl rfl⟩
    · refine ⟨0, hname.trans (List.append_nil _).symm, fun hlast => .inr ⟨rfl, ?_⟩⟩
      have hs : s ≠ [] := by simpa using hlast
      rw [hadd]
      exact Trail.ne_empty_of_mem_getLast?_add hs
  | succ k =>
    refine ⟨k + 1, ?_, fun _ => .inl (Nat.max_eq_right (Nat.le_add_left 1 k)).symm⟩
    rw [List.replicate_succ', ← List.append_assoc, walk_concat, List.foldl_append,
      Trail.arrive_nil, Trail.names_add_nil, Trail.names_stride_replicate, List.append_assoc,
      ← List.replicate_succ']
    rfl

/-! ### Names of a path -/

/-- What stands for slashes in the text of a path, written as slashes. -/
def slashed (cs : List Char) : List Char :=
  cs.map fun c => if isSlash true c then '/' else c

/-- The names along a path that begins with a slash. -/
lemma pathNames_cons {c : Char} (hc : isSlash true c = true) (cs : List Char) :
    pathNames true (c :: cs) = (walk false (pieces '/' (slashed cs)) Trail.start).names := by
  simp only [pathNames, segmentsOfPath, segments, hc, if_true, slashed]

@[simp] lemma slashed_replicate (k : ℕ) :
    slashed (List.replicate k '/') = List.replicate k '/' := by
  simp [slashed, isSlash]

@[simp] lemma slashed_append (cs ds : List Char) : slashed (cs ++ ds) = slashed cs ++ slashed ds :=
  List.map_append

/-- The last segment of a path that does not end in a slash has characters. -/
lemma ne_nil_of_mem_getLast?_pieces {c : Char} {cs : List Char} (hc : isSlash true c = true)
    (hlast : ∀ d ∈ (c :: cs).getLast?, isSlash true d = false) :
    ∀ s ∈ (pieces '/' (slashed cs)).getLast?, s ≠ [] := by
  rcases List.eq_nil_or_concat cs with rfl | ⟨ds, d, rfl⟩
  · exact absurd (hlast c rfl) (by rw [hc]; decide)
  · rw [List.concat_eq_append] at hlast ⊢
    have hd : isSlash true d = false := by
      refine hlast d ?_
      rw [← List.cons_append, List.getLast?_concat]
      rfl
    have hne : d ≠ '/' := by
      rintro rfl
      cases hd
    have hslashed : slashed (ds ++ [d]) = slashed ds ++ [d] := by
      simp [slashed, hd]
    obtain ⟨ps, p, hps⟩ := Text.exists_pieces_concat hne (slashed ds)
    rw [hslashed, hps, List.getLast?_concat]
    rintro s ⟨⟩
    exact List.append_ne_nil_of_right_ne_nil _ (List.cons_ne_nil _ _)

/-- Slashes at the end of a path change nothing but the empty names at its end.  There are as many
of these as there are slashes; if there are none, a path that does not end otherwise in a slash ends
in one empty name or in a name that is not empty. -/
lemma pathNames_slashes {cs : List Char} (hcs : ∀ c ∈ cs.head?, isSlash true c = true) :
    ∃ names : List String, pathNames true (cs ++ ['/']) = names ++ [""] ∧
      ∀ k, ∃ j, pathNames true (cs ++ List.replicate k '/') = names ++ List.replicate j "" ∧
        (0 < k ∨ (∀ c ∈ cs.getLast?, isSlash true c = false) →
          j = max 1 k ∨ j = 0 ∧ ∀ name ∈ names.getLast?, name ≠ "") := by
  cases cs with
  | nil =>
    refine ⟨[], rfl, ?_⟩
    intro k
    cases k with
    | zero => exact ⟨1, rfl, fun _ => .inl rfl⟩
    | succ k =>
      refine ⟨k + 1, ?_, fun _ => .inl (Nat.max_eq_right (Nat.le_add_left 1 k)).symm⟩
      have hpieces := Text.pieces_append_replicate '/' [] k
      rw [List.nil_append] at hpieces
      rw [List.nil_append, List.replicate_succ, pathNames_cons (by decide), slashed_replicate,
        hpieces]
      change (walk false (List.replicate 1 [] ++ List.replicate k []) Trail.start).names = _
      rw [← List.replicate_add, Nat.add_comm, List.replicate_succ', walk_concat, Trail.arrive_nil,
        Trail.names_add_nil, Trail.names_stride_replicate, List.append_assoc,
        ← List.replicate_succ']
      rfl
  | cons c cs =>
    have hc : isSlash true c = true := hcs c rfl
    refine ⟨namesAlong (pieces '/' (slashed cs)), ?_, ?_⟩
    · have hpieces := Text.pieces_concat '/' (slashed cs)
      rw [List.cons_append, pathNames_cons hc, slashed_append]
      change (walk false (pieces '/' (slashed cs ++ ['/'])) Trail.start).names = _
      rw [hpieces, walk_concat, Trail.arrive_nil, Trail.names_add_nil]
      rfl
    · intro k
      obtain ⟨j, hj, hcount⟩ := names_walk_append_replicate (Text.pieces_ne_nil '/' (slashed cs)) k
      refine ⟨j, ?_, fun h => hcount (h.imp_right (ne_nil_of_mem_getLast?_pieces hc))⟩
      rw [List.cons_append, pathNames_cons hc, slashed_append, slashed_replicate,
        Text.pieces_append_replicate]
      exact hj

/-! ### Names without slashes -/

namespace Trail

/-- No name of a path holds a slash. -/
def Clear (t : Trail) : Prop :=
  ∀ name ∈ t.names, '/' ∉ name.toList

lemma Clear.up {t : Trail} (h : t.Clear) : t.up.Clear := by
  unfold Trail.up
  split
  · split
    · exact h
    · intro name hname
      exact h name (List.dropLast_subset _ hname)
  · exact h

lemma Clear.add {t : Trail} (h : t.Clear) {s : List Char} (hs : '/' ∉ s) : (t.add s).Clear := by
  intro name hname
  rcases List.mem_append.1 hname with hname | hname
  · exact h name hname
  · obtain rfl := List.mem_singleton.1 hname
    rw [String.toList_ofList]
    exact Percent.not_mem_slash_encode hs

lemma Clear.stride {t : Trail} (h : t.Clear) {s : List Char} (hs : '/' ∉ s) :
    (t.stride s).Clear := by
  unfold Trail.stride
  rw [extend_false]
  split
  · exact h.up
  · split
    · exact h
    · exact h.add hs

lemma Clear.arrive {t : Trail} (h : t.Clear) {s : List Char} (hs : '/' ∉ s) :
    (t.arrive s).Clear := by
  unfold Trail.arrive
  rw [extend_false]
  split
  · exact h.up.add List.not_mem_nil
  · split
    · exact h.add List.not_mem_nil
    · exact h.add hs

lemma Clear.foldl_stride {t : Trail} (h : t.Clear) {ss : List (List Char)}
    (hss : ∀ s ∈ ss, '/' ∉ s) : (ss.foldl Trail.stride t).Clear := by
  induction ss generalizing t with
  | nil => exact h
  | cons s ss ih =>
    have hs : (t.stride s).Clear := h.stride (hss s List.mem_cons_self)
    exact ih hs fun s' hs' => hss s' (List.mem_cons_of_mem s hs')

/-- A path has a name once its last segment is read. -/
lemma names_arrive_ne_nil (t : Trail) (s : List Char) : (t.arrive s).names ≠ [] := by
  unfold arrive
  rw [extend_false]
  split
  · exact List.append_ne_nil_of_right_ne_nil _ (List.cons_ne_nil _ _)
  · split
    · exact List.append_ne_nil_of_right_ne_nil _ (List.cons_ne_nil _ _)
    · exact List.append_ne_nil_of_right_ne_nil _ (List.cons_ne_nil _ _)

end Trail

/-- The names along a path are those of a walk along segments without slashes. -/
lemma exists_walk_eq_pathNames (cs : List Char) :
    ∃ (ss : List (List Char)) (s : List Char), (∀ s' ∈ ss, '/' ∉ s') ∧ '/' ∉ s ∧
      pathNames true cs = ((ss.foldl Trail.stride Trail.start).arrive s).names := by
  have hsegments : ∃ ds, segmentsOfPath true cs = pieces '/' ds := by
    cases cs with
    | nil => exact ⟨[], rfl⟩
    | cons c cs => exact ⟨_, rfl⟩
  obtain ⟨ds, hds⟩ := hsegments
  obtain ⟨ss, s, hss⟩ :=
    (List.eq_nil_or_concat (pieces '/' ds)).resolve_left (Text.pieces_ne_nil '/' ds)
  have hclear : ∀ s' ∈ ss ++ [s], '/' ∉ s' := by
    rw [← List.concat_eq_append, ← hss]
    exact fun s' hs' => Text.not_mem_of_mem_pieces hs'
  refine ⟨ss, s, fun s' hs' => hclear s' (List.mem_append_left _ hs'),
    hclear s (List.mem_append_right _ (List.mem_singleton_self s)), ?_⟩
  rw [pathNames, hds, hss, List.concat_eq_append, walk_concat]

/-- No name of a path holds a slash. -/
lemma not_mem_slash_of_mem_pathNames {cs : List Char} {name : String}
    (h : name ∈ pathNames true cs) : '/' ∉ name.toList := by
  obtain ⟨ss, s, hss, hs, hnames⟩ := exists_walk_eq_pathNames cs
  have hstart : Trail.start.Clear := by
    intro name hname
    cases hname
  rw [hnames] at h
  exact (hstart.foldl_stride hss).arrive hs name h

/-- A path that is read has a name. -/
lemma pathNames_ne_nil (cs : List Char) : pathNames true cs ≠ [] := by
  obtain ⟨ss, s, -, -, hnames⟩ := exists_walk_eq_pathNames cs
  rw [hnames]
  exact Trail.names_arrive_ne_nil _ s

/-! ### Authorities -/

section Authority

variable {scheme : String}

/-- After a special scheme there is a host. -/
lemma readAuthority_of_rest_nil (hscheme : isSpecial scheme = true) (atEnd : Bool) {cs : List Char}
    (hrest : (splitUserInfo cs).2 = []) : readAuthority scheme atEnd cs = .error .emptyHost := by
  unfold readAuthority
  rcases hinfo : splitUserInfo cs with ⟨info, rest⟩
  obtain rfl : rest = [] := by rw [← hrest, hinfo]
  simp only [hscheme]
  split
  · rfl
  · rfl

/-- After a special scheme it does not matter whether anything follows the text. -/
lemma readAuthority_atEnd (hscheme : isSpecial scheme = true) (atEnd atEnd' : Bool)
    (cs : List Char) : readAuthority scheme atEnd cs = readAuthority scheme atEnd' cs := by
  by_cases hrest : (splitUserInfo cs).2 = []
  · rw [readAuthority_of_rest_nil hscheme atEnd hrest,
      readAuthority_of_rest_nil hscheme atEnd' hrest]
  · unfold readAuthority
    rcases hinfo : splitUserInfo cs with ⟨info, rest⟩
    have hne : rest ≠ [] := by
      rw [hinfo] at hrest
      exact hrest
    simp only [hne, false_and, and_false]

/-- An authority that is read is not empty. -/
lemma ne_nil_of_readAuthority (hscheme : isSpecial scheme = true) {atEnd : Bool} {cs : List Char}
    {a : Authority × List Char} (h : readAuthority scheme atEnd cs = .ok a) : cs ≠ [] := by
  rintro rfl
  rw [readAuthority_of_rest_nil hscheme atEnd rfl] at h
  cases h

end Authority

/-! ### Stems -/

section Stems

variable {scheme : String} {atEnd : Bool} {cs : List Char} {u : Stem}

/-- The authority in a text after a special scheme. -/
def authorityOf (cs : List Char) : List Char :=
  (cs.dropWhile (isSlash true)).takeWhile fun c => !isSlash true c

/-- What follows the authority in a text after a special scheme. -/
def afterAuthority (cs : List Char) : List Char :=
  (cs.dropWhile (isSlash true)).dropWhile fun c => !isSlash true c

/-- The stem of a special scheme is read from its authority and its path. -/
lemma readSpecial_eq_ok_iff (hscheme : isSpecial scheme = true) :
    readSpecial scheme atEnd cs = .ok u ↔ ∃ a rest,
      readAuthority scheme false (authorityOf cs) = .ok (a, rest) ∧
        u = ⟨scheme, a.userInfo, some a.host, a.port,
          .segments (pathNames true (afterAuthority cs)), none, none⟩ := by
  simp only [readSpecial]
  rw [readAuthority_atEnd hscheme _ false]
  change (readAuthority scheme false (authorityOf cs) >>= _) = _ ↔ _
  cases readAuthority scheme false (authorityOf cs) with
  | error e => exact ⟨nofun, fun ⟨_, _, h, _⟩ => nomatch h⟩
  | ok r =>
    rcases r with ⟨a, rest⟩
    constructor
    · intro h
      exact ⟨a, rest, rfl, (Except.ok.inj h).symm⟩
    · rintro ⟨a', rest', hr, rfl⟩
      obtain ⟨rfl, rfl⟩ := Prod.mk.inj (Except.ok.inj hr)
      rfl

/-- An authority is empty exactly if there is nothing but slashes. -/
lemma authorityOf_eq_nil_iff : authorityOf cs = [] ↔ ∀ c ∈ cs, isSlash true c = true := by
  rw [← List.dropWhile_eq_nil_iff]
  constructor
  · intro h
    by_contra hne
    have hhead := List.head_dropWhile_not (isSlash true) hne
    rw [authorityOf, ← List.cons_head_tail hne, List.takeWhile_cons, hhead] at h
    cases h
  · intro h
    rw [authorityOf, h]
    rfl

/-- What follows an authority begins with a slash. -/
lemma isSlash_head_afterAuthority {c : Char} (hc : c ∈ (afterAuthority cs).head?) :
    isSlash true c = true := by
  rw [afterAuthority, ← List.find?_eq_head?_dropWhile_not] at hc
  exact List.find?_some hc

/-- Slashes behind an authority do not belong to it. -/
lemma cut_authority {ds : List Char} (hcs : authorityOf cs ≠ []) (hds : ∀ d ∈ ds, d = '/') :
    authorityOf (cs ++ ds) = authorityOf cs ∧
      afterAuthority (cs ++ ds) = afterAuthority cs ++ ds := by
  have hne : ¬ (cs.dropWhile (isSlash true)).isEmpty = true := by
    rw [List.isEmpty_iff, List.dropWhile_eq_nil_iff, ← authorityOf_eq_nil_iff]
    exact hcs
  have hslash : ∀ d ∈ ds, (!isSlash true d) = false := by
    intro d hd
    rw [hds d hd]
    rfl
  rw [authorityOf, afterAuthority, List.dropWhile_append, if_neg hne,
    takeWhile_append_of_forall_not hslash, dropWhile_append_of_forall_not hslash]
  exact ⟨rfl, rfl⟩

/-- What follows an authority is the end of the text. -/
lemma afterAuthority_suffix (cs : List Char) : afterAuthority cs <:+ cs :=
  (List.dropWhile_suffix _).trans (List.dropWhile_suffix _)

/-- Slashes at the end of a stem change nothing but the empty names at the end of its path. -/
lemma readSpecial_slashes (hscheme : isSpecial scheme = true) {k : ℕ}
    (h : readSpecial scheme atEnd (cs ++ List.replicate k '/') = .ok u) :
    ∃ names j, u.path = .segments (names ++ List.replicate j "") ∧
      (∀ name ∈ names, '/' ∉ name.toList) ∧
      (0 < k ∨ (∀ c ∈ cs.getLast?, isSlash true c = false) →
        j = max 1 k ∨ j = 0 ∧ ∀ name ∈ names.getLast?, name ≠ "") ∧
      ∀ atEnd', readSpecial scheme atEnd' (cs ++ ['/'])
        = .ok { u with path := .segments (names ++ [""]) } := by
  obtain ⟨a, rest, hread, rfl⟩ := (readSpecial_eq_ok_iff hscheme).1 h
  have hauthority : authorityOf cs ≠ [] := by
    intro hnil
    refine ne_nil_of_readAuthority hscheme hread (authorityOf_eq_nil_iff.2 ?_)
    intro c hc
    rcases List.mem_append.1 hc with hc | hc
    · exact authorityOf_eq_nil_iff.1 hnil c hc
    · rw [List.eq_of_mem_replicate hc]
      rfl
  have hmany : ∀ d ∈ List.replicate k '/', d = '/' := fun d hd => List.eq_of_mem_replicate hd
  have hone : ∀ d ∈ ['/'], d = '/' := fun d hd => List.mem_singleton.1 hd
  have hhead : ∀ c ∈ (afterAuthority cs).head?, isSlash true c = true :=
    fun c hc => isSlash_head_afterAuthority hc
  obtain ⟨hfirst, hafter⟩ := cut_authority hauthority hmany
  obtain ⟨hfirst', hafter'⟩ := cut_authority hauthority hone
  rw [hfirst] at hread
  obtain ⟨names, hnames, hlater⟩ := pathNames_slashes hhead
  obtain ⟨j, hj, hcount⟩ := hlater k
  refine ⟨names, j, ?_, ?_, ?_, ?_⟩
  · rw [hafter, hj]
  · intro name hname
    have hmem : name ∈ pathNames true (afterAuthority cs ++ ['/']) := by
      rw [hnames]
      exact List.mem_append_left _ hname
    exact not_mem_slash_of_mem_pathNames hmem
  · exact fun hend => hcount (hend.imp_right fun hlast c hc =>
      hlast c (mem_getLast?_of_suffix (afterAuthority_suffix cs) hc))
  · intro atEnd'
    refine (readSpecial_eq_ok_iff hscheme).2 ⟨a, rest, ?_, ?_⟩
    · rw [hfirst']
      exact hread
    · rw [hafter', hnames]

end Stems

end Url

end Tidemark
