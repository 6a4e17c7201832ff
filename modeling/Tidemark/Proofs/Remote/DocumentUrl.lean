import Tidemark.Proofs.Remote.BaseUrl
import Tidemark.Proofs.Url.Form

/-!
# The place of a document

The place of a document lies below the base of a client, and its query is a form that names the
document, the grants and the collections (`documentsUrl_of_slashed`).  The base of a client ends in
a slash (`Url.exists_path_of_read_slash`), so that nothing of its path is lost.  The names and
values of a form are read back as they are, and those of a grant are never those of a collection
(`documentPairs_inj`); so nothing that is said of a document can be taken for something else, and
two requests that say different things go to different places (`documents_are_told_apart`).
-/

namespace Tidemark

namespace Url

/-- The path of a text that ends in a slash ends in an empty name. -/
lemma exists_path_of_read_slash {cs : List Char} {u : Url}
    (h : read (String.ofList (cs ++ ['/'])) = .ok u) (hweb : u.IsWeb)
    (hquery : u.query = none) (hfragment : u.fragment = none) :
    ∃ names, u.path = .segments (names ++ [""]) := by
  obtain ⟨ds, stem, hsplit, hstem, hu⟩ := exists_of_read_eq_ok h
  have hclean : clean (cs ++ ['/']) = _ ++ ['/'] := clean_append_slashes cs 0
  rw [String.toList_ofList, hclean] at hsplit
  obtain ⟨q, rfl, -, -⟩ := splitScheme_append (fun d hd => List.mem_singleton.1 hd) hsplit
  rw [hu] at hquery hfragment
  have huncut :=
    uncut_of_none (Option.map_eq_none_iff.1 hquery) (Option.map_eq_none_iff.1 hfragment)
  rw [huncut.cut_eq.1, hweb.readStem_eq] at hstem
  obtain ⟨names, -, -, -, -, hread⟩ := readSpecial_slashes (k := 1) hweb.kind.2 hstem
  have hpath : stem.path = .segments (names ++ [""]) :=
    congrArg Url.path (Except.ok.inj (hstem.symm.trans (hread _)))
  exact ⟨names, (congrArg Url.path hu).trans hpath⟩

/-- Names in the place of the empty one at the end of a path follow its slash. -/
lemma render_append_segments (names : List String) (name : String) (rest : List String) :
    (Path.segments (names ++ name :: rest)).render
      = (Path.segments (names ++ [""])).render ++ name ++ (Path.segments rest).render := by
  rw [← String.toList_inj, String.toList_append, String.toList_append, toList_render_segments,
    toList_render_segments, toList_render_segments, pathChars_append, pathChars_append]
  simp [pathChars]

/-- URLs that differ in their queries alone have different texts. -/
lemma query_eq_of_render_eq {u : Url} {q q' : String}
    (h : ({ u with query := some q } : Url).render = ({ u with query := some q' } : Url).render) :
    q = q' := by
  have hauthority : ∀ q, ({ u with query := some q } : Url).authorityText = u.authorityText :=
    fun _ => rfl
  rw [render, render, hauthority, hauthority] at h
  dsimp only at h
  rw [String.append_left_inj, String.append_right_inj, String.append_right_inj] at h
  exact h

end Url

namespace Remote.Client

open Watermark (Grant)

/-! ### What is said of a document -/

/-- The names of capabilities differ. -/
lemma capability_name_injective : Function.Injective Watermark.Capability.name := by
  intro c c' h
  have hread := Watermark.Capability.ofName?_name c
  rw [h, Watermark.Capability.ofName?_name] at hread
  exact (Option.some.inj hread).symm

/-- The form of a grant tells its role and its capability. -/
lemma grantPair_injective :
    Function.Injective fun g : Grant => ("perm:" ++ g.role, g.capability.name) := by
  rintro ⟨role, capability⟩ ⟨role', capability'⟩ h
  obtain ⟨hrole, hname⟩ := Prod.mk.inj h
  obtain rfl : role = role' := (String.append_right_inj "perm:").1 hrole
  obtain rfl : capability = capability' := capability_name_injective hname
  rfl

/-- A collection is not written like a grant. -/
lemma collectionPair_ne (name : String) (g : Grant) :
    ("collection", name) ≠ ("perm:" ++ g.role, g.capability.name) := by
  intro h
  have hfirst := congrArg (fun p : String × String => p.1.toList.head?) h
  simp at hfirst

/-- Grants and the collections behind them can be told from their names and values. -/
lemma grantPairs_append_inj {grants grants' : List Grant} {collections collections' : List String}
    (h : grants.map (fun g => ("perm:" ++ g.role, g.capability.name))
        ++ collections.map (fun name => ("collection", name))
      = grants'.map (fun g => ("perm:" ++ g.role, g.capability.name))
        ++ collections'.map (fun name => ("collection", name))) :
    grants = grants' ∧ collections = collections' := by
  have hinjective : Function.Injective fun name : String => ("collection", name) :=
    fun _ _ h => (Prod.mk.inj h).2
  induction grants generalizing grants' with
  | nil =>
    cases grants' with
    | nil => exact ⟨rfl, hinjective.list_map h⟩
    | cons g' grants' =>
      cases collections with
      | nil => cases h
      | cons name collections => exact absurd (List.cons.inj h).1 (collectionPair_ne name g')
  | cons g grants ih =>
    cases grants' with
    | nil =>
      cases collections' with
      | nil => cases h
      | cons name collections' =>
        exact absurd (List.cons.inj h).1.symm (collectionPair_ne name g)
    | cons g' grants' =>
      obtain ⟨hfirst, htail⟩ := List.cons.inj h
      obtain ⟨rfl, hcollections⟩ := ih htail
      exact ⟨congrArg (· :: grants) (grantPair_injective hfirst), hcollections⟩

/-- What is said of a document can be told from its names and values. -/
lemma documentPairs_inj {uri uri' : String} {grants grants' : List Grant}
    {collections collections' : List String}
    (h : documentPairs uri grants collections = documentPairs uri' grants' collections') :
    uri = uri' ∧ grants = grants' ∧ collections = collections' := by
  obtain ⟨huri, htail⟩ := List.cons.inj h
  exact ⟨(Prod.mk.inj huri).2, grantPairs_append_inj htail⟩

/-! ### Places of documents -/

/-- The place of all documents, below a base whose path ends in a slash after the given names. -/
def documentsBelow (base : Url) (names : List String) : Url :=
  { base with
    path := .segments (names ++ ["v1", "documents"]), query := none, fragment := none }

/-- A base whose path ends in a slash has the places of documents below it. -/
lemma documentsUrl_of_slashed {client : Client} (hfile : Url.isFile client.base.scheme = false)
    {names : List String} (hpath : client.base.path = .segments (names ++ [""]))
    {location : Storage.Location} {grants : List Grant}
    (hgrants : Grant.readAll location.permissions = .ok grants) :
    client.documentsUrl location = .ok { documentsBelow client.base names with
      query := some (Url.Form.encode
        (documentPairs location.uri grants location.collections)) } := by
  have hresolve : client.base.resolve ["v1", "documents"]
      = .ok (documentsBelow client.base names) := by
    simp only [Url.resolve, hpath, hfile, besideLast_false, List.dropLast_concat, documentsBelow]
  rw [documentsUrl, hgrants, hresolve]
  rfl

/-- The place of all documents follows the slash at the end of the base. -/
lemma render_path_documentsBelow {base : Url} {names : List String}
    (hpath : base.path = .segments (names ++ [""])) :
    (documentsBelow base names).path.render = base.path.render ++ "v1/documents" := by
  have hname : (Url.Path.segments ["documents"]).render = "/documents" := by decide +kernel
  rw [hpath, documentsBelow, Url.render_append_segments, hname, String.append_assoc]
  rfl

/-- The base of a client that is read without query and fragment ends in a slash. -/
lemma exists_path_of_new {text : String} {key : Option String} {client : Client}
    (hnew : new text key = .ok client) (hweb : client.base.IsWeb)
    (hquery : client.base.query = none) (hfragment : client.base.fragment = none) :
    ∃ names, client.base.path = .segments (names ++ [""]) := by
  unfold new at hnew
  split at hnew
  · next url hread =>
    obtain rfl := Except.ok.inj hnew
    exact Url.exists_path_of_read_slash hread hweb hquery hfragment
  · cases hnew

/-- **What is said of a document can be read off its place.**  Let a client have a base of `http` or
`https` without query and fragment.  A document whose permissions can be read has a place on the
host of the base: its path is that of the base followed by `v1/documents`, it has no fragment, and
its query is a form that is read back as the URI, each grant and each collection, in this order,
whatever characters they hold.  Requests that say different things have places with different texts.
Permissions that cannot be read are reported. -/
theorem documents_are_told_apart {text : String} {key : Option String} {client : Client}
    (hnew : new text key = .ok client) (hweb : client.base.IsWeb)
    (hquery : client.base.query = none) (hfragment : client.base.fragment = none)
    (location : Storage.Location) :
    (∀ grants, Grant.readAll location.permissions = .ok grants →
      ∃ r q, client.documentsUrl location = .ok r ∧
        r.scheme = client.base.scheme ∧ r.userInfo = client.base.userInfo ∧
        r.host = client.base.host ∧ r.port = client.base.port ∧
        r.path.render = client.base.path.render ++ "v1/documents" ∧
        r.query = some q ∧ '#' ∉ q.toList ∧ r.fragment = none ∧
        Url.Form.decode q = some ([("uri", location.uri)]
          ++ grants.map (fun g => ("perm:" ++ g.role, g.capability.name))
          ++ location.collections.map (fun name => ("collection", name))) ∧
        ∀ location' grants' r', Grant.readAll location'.permissions = .ok grants' →
          client.documentsUrl location' = .ok r' → r'.render = r.render →
          location'.uri = location.uri ∧ grants' = grants ∧
            location'.collections = location.collections) ∧
    (∀ fault, Grant.readAll location.permissions = .error fault →
      client.documentsUrl location = .error (.permissions fault)) := by
  obtain ⟨names, hpath⟩ := exists_path_of_new hnew hweb hquery hfragment
  constructor
  · intro grants hgrants
    refine ⟨_, _, documentsUrl_of_slashed hweb.kind.1 hpath hgrants, rfl, rfl, rfl, rfl,
      render_path_documentsBelow hpath, rfl, ?_, rfl, Url.Form.decode_encode _, ?_⟩
    · intro hhash
      exact absurd (Url.Form.isPlain_of_mem_encode hhash) (by decide)
    · intro location' grants' r' hgrants' hr' htext
      have hplace := documentsUrl_of_slashed hweb.kind.1 hpath hgrants'
      obtain rfl := Except.ok.inj (hplace.symm.trans hr')
      exact documentPairs_inj (Url.Form.encode_injective (Url.query_eq_of_render_eq htext))
  · intro fault hfault
    rw [documentsUrl, hfault]
    rfl

/-- A document whose URI, role and collections are full of the signs that a form is put together
with. -/
def signsLocation : Storage.Location where
  uri := "/a&uri=b+c.json#d"
  permissions := "r=s&t,read, größe ,update"
  collections := ["", "x%26 &collection=y"]

/-- The signs of a form that stand in the URI, in a role or in a collection are read back as such,
and no parameter comes in addition. -/
theorem signs_are_read_back : ∃ client r q, new "http://proxy.local/marklogic" none = .ok client ∧
    client.documentsUrl signsLocation = .ok r ∧ r.path.render = "/marklogic/v1/documents" ∧
      r.query = some q ∧ Url.Form.decode q = some [("uri", "/a&uri=b+c.json#d"),
        ("perm:r=s&t", "read"), ("perm:größe", "update"), ("collection", ""),
        ("collection", "x%26 &collection=y")] := by
  have hnew : (new "http://proxy.local/marklogic" none).toOption = some ⟨⟨"http", "",
      some "proxy.local", none, .segments ["marklogic", ""], none, none⟩, none⟩ := by
    decide +kernel
  have hgrants : (Grant.readAll signsLocation.permissions).toOption
      = some [⟨"r=s&t", .read⟩, ⟨"größe", .update⟩] := by
    decide +kernel
  obtain ⟨hplace, -⟩ := documents_are_told_apart (eq_ok_of_toOption hnew) (Or.inl rfl) rfl rfl
    signsLocation
  obtain ⟨r, q, hr, -, -, -, -, hpath, hq, -, -, hread, -⟩ := hplace _ (eq_ok_of_toOption hgrants)
  have hbelow : (Url.Path.segments ["marklogic", ""]).render ++ "v1/documents"
      = "/marklogic/v1/documents" := by
    decide +kernel
  exact ⟨_, r, q, eq_ok_of_toOption hnew, hr, hpath.trans hbelow, hq, hread⟩

end Remote.Client

end Tidemark
