import Tidemark.Proofs.Result
import Tidemark.Proofs.Text.Pieces
import Tidemark.Proofs.Text.Trim
import Tidemark.Watermark.Permission

/-!
# Reading a descriptor of permissions

The tokens of a descriptor stand in its pieces between commas, one in each piece and with blanks
around it; the other pieces are blank (`Spread`, `tokens_eq_iff`).  Tokens are read two by two, a
role and then a capability, so that the words of the grants that are read are exactly the tokens
(`readAll_eq_ok_iff`).  Otherwise a fault is reported: an odd number of tokens, or the first
capability that is unknown (`Refuses`).  Grants are found again in every descriptor over whose
pieces their words are spread (`descriptors_are_read_in_pairs`).
-/

namespace Tidemark.Watermark

open Text (AllBlank Tight)

namespace Capability

/-- The names of the capabilities. -/
def names : List String :=
  ["read", "update", "insert", "execute"]

/-- Every capability has one of these names. -/
lemma name_mem_names (c : Capability) : c.name ∈ names := by
  cases c <;> decide

/-- A capability is found by its name alone. -/
lemma ofName?_eq_some_iff {name : String} {c : Capability} :
    ofName? name = some c ↔ c.name = name := by
  constructor
  · intro h
    simpa using List.find?_some h
  · rintro rfl
    exact ofName?_name c

/-- Nothing is found by any other name. -/
lemma ofName?_eq_none_iff {name : String} : ofName? name = none ↔ name ∉ names := by
  constructor
  · intro h hname
    simp only [names, List.mem_cons, List.not_mem_nil, or_false] at hname
    rcases hname with rfl | rfl | rfl | rfl <;> exact absurd h (by decide)
  · intro hname
    cases h : ofName? name with
    | none => rfl
    | some c =>
      obtain rfl := ofName?_eq_some_iff.1 h
      exact absurd (name_mem_names c) hname

end Capability

namespace Grant

/-! ### Tokens and pieces -/

/-- A token is a text that is not empty and has no blank at either end. -/
structure IsToken (t : String) : Prop where
  ne_empty : t ≠ ""
  tight : Tight t.toList

/-- Texts are spread over pieces: each stands in a piece of its own, in order and with blanks around
it, and the other pieces are blank. -/
inductive Spread : List String → List (List Char) → Prop
  | nil : Spread [] []
  | blank {ts : List String} {p : List Char} {ps : List (List Char)} (hp : AllBlank p)
      (h : Spread ts ps) : Spread ts (p :: ps)
  | token {ts : List String} {ps : List (List Char)} (t : String) {bs es : List Char}
      (hbs : AllBlank bs) (hes : AllBlank es) (h : Spread ts ps) :
      Spread (t :: ts) ((bs ++ t.toList ++ es) :: ps)

/-- The texts that are left of pieces once these are trimmed and the empty ones left out. -/
def textsOf (ps : List (List Char)) : List String :=
  ((ps.map Text.trim).filter (· ≠ [])).map String.ofList

/-- A blank piece leaves no text. -/
lemma textsOf_cons_of_trim_eq_nil {p : List Char} (h : Text.trim p = []) (ps : List (List Char)) :
    textsOf (p :: ps) = textsOf ps := by
  simp [textsOf, h]

/-- A piece that is not blank leaves one text. -/
lemma textsOf_cons_of_trim_ne_nil {p : List Char} (h : Text.trim p ≠ []) (ps : List (List Char)) :
    textsOf (p :: ps) = String.ofList (Text.trim p) :: textsOf ps := by
  simp [textsOf, h]

/-- The texts that pieces leave are tokens. -/
lemma isToken_of_mem_textsOf {t : String} {ps : List (List Char)} (ht : t ∈ textsOf ps) :
    IsToken t := by
  obtain ⟨ds, hds, rfl⟩ := List.mem_map.1 ht
  obtain ⟨hmem, hne⟩ := List.mem_filter.1 hds
  obtain ⟨p, -, rfl⟩ := List.mem_map.1 hmem
  constructor
  · intro hempty
    exact of_decide_eq_true hne (String.ofList_eq_empty_iff.1 hempty)
  · rw [String.toList_ofList]
    exact Text.tight_trim p

/-- The texts that pieces leave are spread over them. -/
lemma spread_textsOf (ps : List (List Char)) : Spread (textsOf ps) ps := by
  induction ps with
  | nil => exact .nil
  | cons p ps ih =>
    obtain ⟨bs, es, hbs, hes, hp⟩ := Text.exists_trim p
    by_cases h : Text.trim p = []
    · rw [textsOf_cons_of_trim_eq_nil h]
      rw [h, List.append_nil] at hp
      refine .blank ?_ ih
      rw [hp]
      exact fun c hc => (List.mem_append.1 hc).elim (hbs c) (hes c)
    · rw [textsOf_cons_of_trim_ne_nil h]
      have hpiece := Spread.token (String.ofList (Text.trim p)) hbs hes ih
      rwa [String.toList_ofList, ← hp] at hpiece

/-- No other tokens are spread over pieces than the texts that these leave. -/
lemma Spread.textsOf_eq {ts : List String} {ps : List (List Char)} (h : Spread ts ps)
    (hts : ∀ t ∈ ts, IsToken t) : textsOf ps = ts := by
  induction h with
  | nil => rfl
  | @blank ts p ps hp h ih =>
    have hnil : Text.trim p = [] := Text.trim_eq_iff.2 ⟨⟨nofun, nofun⟩, p, [], hp, nofun, by simp⟩
    rw [textsOf_cons_of_trim_eq_nil hnil, ih hts]
  | @token ts ps t bs es hbs hes h ih =>
    obtain ⟨ht, hts⟩ := List.forall_mem_cons.1 hts
    have htrim := ht.tight.trim_append hbs hes
    have hne : Text.trim (bs ++ t.toList ++ es) ≠ [] := by
      rw [htrim]
      exact fun hnil => ht.ne_empty (String.toList_eq_nil_iff.1 hnil)
    rw [textsOf_cons_of_trim_ne_nil hne, htrim, String.ofList_toList, ih hts]

/-- **The tokens of a descriptor are those that are spread over its pieces between commas.** -/
lemma tokens_eq_iff {descriptor : String} {ts : List String} :
    tokens descriptor = ts ↔
      Spread ts (descriptor.toList.splitOn ',') ∧ ∀ t ∈ ts, IsToken t := by
  rw [← Text.pieces_eq_splitOn]
  constructor
  · rintro rfl
    exact ⟨spread_textsOf _, fun t ht => isToken_of_mem_textsOf ht⟩
  · rintro ⟨hspread, hts⟩
    exact hspread.textsOf_eq hts

/-! ### Grants and tokens -/

/-- The two words of a grant. -/
def words (g : Grant) : List String :=
  [g.role, g.capability.name]

/-- Grants are read from their words, and then from the tokens behind them. -/
lemma ofTokens_words_append (gs : List Grant) (ts : List String) :
    ofTokens (gs.flatMap words ++ ts) = (ofTokens ts).map (gs ++ ·) := by
  induction gs with
  | nil => cases h : ofTokens ts <;> simp [h, Except.map]
  | cons g gs ih =>
    have hfirst : ofTokens (g.words ++ (gs.flatMap words ++ ts))
        = (ofTokens (gs.flatMap words ++ ts)).map (g :: ·) := by
      simp only [words, List.cons_append, List.nil_append, ofTokens, Capability.ofName?_name]
    rw [List.flatMap_cons, List.append_assoc, hfirst, ih]
    cases ofTokens ts <;> rfl

/-- The words of grants are read as these grants. -/
lemma ofTokens_words (gs : List Grant) : ofTokens (gs.flatMap words) = .ok gs := by
  have h := ofTokens_words_append gs []
  rw [List.append_nil] at h
  rw [h, ofTokens]
  · simp [Except.map]
  · exact nofun

/-- The grants before the first unknown capability do not matter. -/
lemma ofTokens_of_unknown (gs : List Grant) (role : String) {name : String}
    (hname : name ∉ Capability.names) (rest : List String) :
    ofTokens (gs.flatMap words ++ role :: name :: rest)
      = .error (.unknownCapability name role) := by
  have hnone : Capability.ofName? name = none := Capability.ofName?_eq_none_iff.2 hname
  rw [ofTokens_words_append, ofTokens, hnone]
  rfl

/-- Tokens of an even number are the words of grants, or there is a first pair that is no grant. -/
lemma words_or_unknown : ∀ ts : List String, ts.length % 2 = 0 →
    (∃ gs : List Grant, ts = gs.flatMap words) ∨
      ∃ (gs : List Grant) (role name : String) (rest : List String),
        ts = gs.flatMap words ++ role :: name :: rest ∧ name ∉ Capability.names
  | [], _ => .inl ⟨[], rfl⟩
  | [_], h => absurd h Nat.one_ne_zero
  | role :: name :: rest, h => by
    cases hfind : Capability.ofName? name with
    | none =>
      exact .inr ⟨[], role, name, rest, rfl, Capability.ofName?_eq_none_iff.1 hfind⟩
    | some c =>
      obtain rfl := Capability.ofName?_eq_some_iff.1 hfind
      have heven : rest.length % 2 = 0 := (Nat.add_mod_right rest.length 2).symm.trans h
      rcases words_or_unknown rest heven with ⟨gs, rfl⟩ | ⟨gs, role', name', rest', rfl, hname⟩
      · exact .inl ⟨⟨role, c⟩ :: gs, rfl⟩
      · exact .inr ⟨⟨role, c⟩ :: gs, role', name', rest', rfl, hname⟩

/-- The words of grants are pairs with known capabilities. -/
lemma exists_words_iff : ∀ ts : List String, (∃ gs : List Grant, ts = gs.flatMap words) ↔
    ts.length % 2 = 0 ∧ ∀ i name, ts[2 * i + 1]? = some name → name ∈ Capability.names
  | [] => ⟨fun _ => ⟨rfl, nofun⟩, fun _ => ⟨[], rfl⟩⟩
  | [_] => by
    constructor
    · rintro ⟨gs, hgs⟩
      cases gs <;> cases hgs
    · rintro ⟨hodd, -⟩
      exact absurd hodd Nat.one_ne_zero
  | role :: name :: rest => by
    have ih := exists_words_iff rest
    have hlength : (role :: name :: rest).length % 2 = rest.length % 2 :=
      Nat.add_mod_right rest.length 2
    constructor
    · rintro ⟨gs, hgs⟩
      cases gs with
      | nil => cases hgs
      | cons g gs =>
        obtain ⟨hrole, htail⟩ := List.cons.inj hgs
        obtain ⟨rfl, hrest⟩ := List.cons.inj htail
        obtain ⟨heven, hknown⟩ := ih.1 ⟨gs, hrest⟩
        refine ⟨hlength.trans heven, fun i t ht => ?_⟩
        cases i with
        | zero =>
          obtain rfl := Option.some.inj ht
          exact Capability.name_mem_names _
        | succ i => exact hknown i t ht
    · rintro ⟨heven, hknown⟩
      have hname : name ∈ Capability.names := hknown 0 name rfl
      obtain ⟨c, hc⟩ := Option.ne_none_iff_exists'.1 fun h =>
        Capability.ofName?_eq_none_iff.1 h hname
      obtain rfl := Capability.ofName?_eq_some_iff.1 hc
      obtain ⟨gs, rfl⟩ := ih.2 ⟨hlength.symm.trans heven, fun i t ht => hknown (i + 1) t ht⟩
      exact ⟨⟨role, c⟩ :: gs, rfl⟩

/-- Why tokens are not the words of grants: their number is odd, or else the first pair that is no
grant has an unknown capability. -/
inductive Refuses (descriptor : String) (ts : List String) : PermissionFault → Prop
  | odd (hodd : ts.length % 2 = 1) : Refuses descriptor ts (.oddTokens ts.length descriptor)
  | unknown (heven : ts.length % 2 = 0) {gs : List Grant} {role name : String} {rest : List String}
      (hts : ts = gs.flatMap words ++ role :: name :: rest) (hname : name ∉ Capability.names) :
      Refuses descriptor ts (.unknownCapability name role)

/-- A descriptor is read as grants whose words are its tokens. -/
lemma readAll_eq_ok_iff {descriptor : String} {gs : List Grant} :
    readAll descriptor = .ok gs ↔ tokens descriptor = gs.flatMap words := by
  have hwords : ∀ gs' : List Grant, tokens descriptor = gs'.flatMap words →
      readAll descriptor = .ok gs' := by
    intro gs' h
    have heven : ((tokens descriptor).length % 2 = 0) := ((exists_words_iff _).1 ⟨gs', h⟩).1
    rw [readAll, if_neg (by omega), h, ofTokens_words]
  constructor
  · intro h
    have heven : (tokens descriptor).length % 2 = 0 := by
      by_contra hodd
      rw [readAll, if_pos (by omega)] at h
      cases h
    rcases words_or_unknown _ heven with ⟨gs', hgs'⟩ | ⟨gs', role, name, rest, hts, hname⟩
    · obtain rfl := Except.ok.inj ((hwords gs' hgs').symm.trans h)
      exact hgs'
    · rw [readAll, if_neg (by omega), hts, ofTokens_of_unknown gs' role hname] at h
      cases h
  · exact hwords gs

/-- A descriptor that is not read is refused for what is wrong with its tokens. -/
lemma readAll_eq_error_iff {descriptor : String} {fault : PermissionFault} :
    readAll descriptor = .error fault ↔ Refuses descriptor (tokens descriptor) fault := by
  have hreport : ∀ fault', Refuses descriptor (tokens descriptor) fault' →
      readAll descriptor = .error fault' := by
    rintro fault' (hodd | @⟨heven, gs, role, name, rest, hts, hname⟩)
    · rw [readAll, if_pos hodd]
    · rw [readAll, if_neg (by omega), hts, ofTokens_of_unknown gs role hname]
  constructor
  · intro h
    rcases Nat.mod_two_eq_zero_or_one (tokens descriptor).length with heven | hodd
    · rcases words_or_unknown _ heven with ⟨gs, hgs⟩ | ⟨gs, role, name, rest, hts, hname⟩
      · rw [readAll_eq_ok_iff.2 hgs] at h
        cases h
      · have hrefused : Refuses descriptor (tokens descriptor) (.unknownCapability name role) :=
          .unknown heven hts hname
        obtain rfl := Except.error.inj ((hreport _ hrefused).symm.trans h)
        exact hrefused
    · obtain rfl := Except.error.inj ((hreport _ (.odd hodd)).symm.trans h)
      exact .odd hodd
  · exact hreport fault

/-! ### Descriptors -/

/-- Blanks around texts without commas put no comma into a piece. -/
lemma Spread.not_mem_comma {ts : List String} {ps : List (List Char)} (h : Spread ts ps)
    (hts : ∀ t ∈ ts, ',' ∉ t.toList) : ∀ p ∈ ps, ',' ∉ p := by
  have hblank : ∀ bs : List Char, AllBlank bs → ',' ∉ bs := fun bs hbs hcomma =>
    absurd (hbs ',' hcomma) (by decide)
  induction h with
  | nil => exact nofun
  | blank hp h ih => exact List.forall_mem_cons.2 ⟨hblank _ hp, ih hts⟩
  | token t hbs hes h ih =>
    obtain ⟨ht, hts⟩ := List.forall_mem_cons.1 hts
    refine List.forall_mem_cons.2 ⟨?_, ih hts⟩
    rw [List.mem_append, List.mem_append, not_or, not_or]
    exact ⟨⟨hblank _ hbs, ht⟩, hblank _ hes⟩

/-- Pieces without commas are found again in a descriptor in which they are joined. -/
lemma tokens_intercalate {ts : List String} {ps : List (List Char)} (h : Spread ts ps)
    (hts : ∀ t ∈ ts, IsToken t ∧ ',' ∉ t.toList) :
    tokens (String.ofList ([','].intercalate ps)) = ts := by
  rcases eq_or_ne ps [] with rfl | hne
  · cases h
    rfl
  · rw [tokens_eq_iff, String.toList_ofList,
      List.splitOn_intercalate ',' (h.not_mem_comma fun t ht => (hts t ht).2) hne]
    exact ⟨h, fun t ht => (hts t ht).1⟩

/-- The name of a capability is a token without commas. -/
lemma isToken_name (c : Capability) : IsToken c.name ∧ ',' ∉ c.name.toList := by
  cases c <;> exact ⟨⟨by decide, by decide⟩, by decide⟩

/-- **A descriptor is read in pairs, and grants are found again wherever their words are listed.**
Every descriptor has one list of tokens: those that stand in its pieces between commas, with blanks
around them, while its other pieces are blank.  It is read exactly if there is an even number of
tokens and every second one is the name of a capability; the grants that are read have these tokens
for words, role and capability in turn.  Otherwise an odd number of tokens is reported, and if there
is none, the first unknown capability with its own role.  Conversely let grants have roles without
commas that are tokens.  Then they are read from every text in which their words stand in this order
between commas, whatever blanks are around them and whatever blank pieces come in between. -/
theorem descriptors_are_read_in_pairs :
    (∀ descriptor, ∃ ts : List String,
      (∀ us, us = ts ↔ Spread us (descriptor.toList.splitOn ',') ∧ ∀ t ∈ us, IsToken t) ∧
      ((∃ gs, readAll descriptor = .ok gs) ↔
        ts.length % 2 = 0 ∧ ∀ i name, ts[2 * i + 1]? = some name → name ∈ Capability.names) ∧
      (∀ gs, readAll descriptor = .ok gs ↔ ts = gs.flatMap words) ∧
      ∀ fault, readAll descriptor = .error fault ↔ Refuses descriptor ts fault) ∧
    ∀ (gs : List Grant) (ps : List (List Char)),
      (∀ g ∈ gs, IsToken g.role ∧ ',' ∉ g.role.toList) → Spread (gs.flatMap words) ps →
        readAll (String.ofList ([','].intercalate ps)) = .ok gs := by
  constructor
  · intro descriptor
    refine ⟨tokens descriptor, fun us => ?_, ?_, fun gs => readAll_eq_ok_iff,
      fun fault => readAll_eq_error_iff⟩
    · rw [← tokens_eq_iff, eq_comm]
    · rw [← exists_words_iff]
      exact exists_congr fun gs => readAll_eq_ok_iff
  · intro gs ps hroles hspread
    rw [readAll_eq_ok_iff]
    apply tokens_intercalate hspread
    intro t ht
    obtain ⟨g, hg, ht⟩ := List.mem_flatMap.1 ht
    simp only [words, List.mem_cons, List.not_mem_nil, or_false] at ht
    rcases ht with rfl | rfl
    · exact hroles g hg
    · exact isToken_name g.capability

/-- Pieces with blanks of several kinds around the words of two grants, and with blank pieces
before, between and after them. -/
def unevenPieces : List (List Char) :=
  [[' '], [] ++ "rest-reader".toList ++ [' '], [' '] ++ "read".toList ++ [], [],
    ['\u00a0'] ++ "größe".toList ++ ['\t'], [] ++ "update".toList ++ [], []]

/-- Blanks and commas too many do not keep grants from being read. -/
theorem uneven_descriptor_is_read :
    readAll " ,rest-reader , read,,\u00a0größe\t,update,"
      = .ok [⟨"rest-reader", .read⟩, ⟨"größe", .update⟩] := by
  have hspread : Spread ["rest-reader", "read", "größe", "update"] unevenPieces :=
    .blank (by decide) <|
      .token _ nofun (by decide) <|
      .token _ (by decide) nofun <|
      .blank nofun <|
      .token _ (by decide) (by decide) <|
      .token _ nofun nofun <|
      .blank nofun .nil
  have hroles : ∀ g ∈ [(⟨"rest-reader", .read⟩ : Grant), ⟨"größe", .update⟩],
      IsToken g.role ∧ ',' ∉ g.role.toList := by
    intro g hg
    simp only [List.mem_cons, List.not_mem_nil, or_false] at hg
    rcases hg with rfl | rfl <;> exact ⟨⟨by decide, by decide⟩, by decide⟩
  have htext : String.ofList ([','].intercalate unevenPieces)
      = " ,rest-reader , read,,\u00a0größe\t,update," := by
    decide +kernel
  rw [← htext]
  exact descriptors_are_read_in_pairs.2 _ _ hroles hspread

end Grant

end Tidemark.Watermark
