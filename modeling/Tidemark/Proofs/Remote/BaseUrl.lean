import Tidemark.Job.Check
import Tidemark.Proofs.Text.Decimal
import Tidemark.Proofs.Url.OneSlash
import Tidemark.Remote.Client

/-!
# The base URL of a client

A description of a job is accepted if the text of its service URL can be read.  The client reads
another text: the same one with exactly one slash at its end.  It finds the place that executes
plans beside the last name of the path that it has read, so that the path of the URL is kept exactly
if this last name is the empty one behind the slash (`rows_keep_base_path_iff`).  A text that ends
in a blank is accepted, but may be refused by the client; a URL with a query loses the last name of
its path (`accepted_urls_lose_base_path`).
-/

namespace Tidemark

/-- The service URL of a description that is accepted can be read. -/
lemma Job.Config.exists_read_of_check {c : Job.Config} (h : c.check = .ok ()) :
    ∃ u, Url.read c.service.url = .ok u := by
  obtain ⟨-, -, h⟩ := exists_of_bind_eq_ok h
  obtain ⟨-, -, h⟩ := exists_of_bind_eq_ok h
  obtain ⟨_, hservice, _⟩ := exists_of_bind_eq_ok h
  unfold Job.Service.check at hservice
  split at hservice
  · cases hservice
  · next u hread => exact ⟨u, hread⟩

namespace Remote.Client

open Url (endSlashes withoutSlashes)

/-! ### The place that executes plans -/

/-- In the place of the last name of a path come other names. -/
lemma besideLast_false (path names : List String) :
    Url.besideLast false path names = path.dropLast ++ names := by
  unfold Url.besideLast
  split <;> rfl

/-- The digits of a point in time stand for themselves in a query. -/
lemma encode_timestamp (t : Engine.PointInTime) :
    Url.Form.encode [("timestamp", t.render)] = "timestamp=" ++ t.render := by
  have hplain : ∀ c ∈ t.render.toList, Url.Form.encodeChar c = [c] := by
    intro c hc
    rw [Engine.PointInTime.render, Text.Count.render, String.toList_ofList] at hc
    have hdigit : c.isDigit = true := Nat.isDigit_of_mem_toDigits (by decide) (by decide) hc
    simp only [Char.isDigit, Bool.and_eq_true, decide_eq_true_eq] at hdigit
    have hrange : '0' ≤ c ∧ c ≤ '9' := hdigit
    simp [Url.Form.encodeChar, Url.Form.isPlain, hrange]
  have hdigits : Url.Form.encodeText t.render = t.render.toList := by
    rw [Url.Form.encodeText, List.flatMap_congr hplain]
    simp
  change String.ofList (Url.Form.encodeText "timestamp" ++ '=' :: Url.Form.encodeText t.render) = _
  have hname : Url.Form.encodeText "timestamp" = "timestamp".toList := by decide +kernel
  rw [hdigits, hname, ← String.toList_inj, String.toList_ofList, String.toList_append]
  rfl

/-- Beside the last name of the second path there is what the first one leads to, exactly if the
second one has one slash at its end. -/
lemma render_rows_iff {names names' : List String} (h : Url.PathsAlike names names') :
    (Url.Path.segments (names'.dropLast ++ ["v1", "rows"])).render
        = withoutSlashes (Url.Path.segments names).render ++ "/v1/rows" ↔
      (endSlashes (Url.Path.segments names').render).length = 1 := by
  have hrows : Url.pathChars ["v1", "rows"] = "/v1/rows".toList := by decide +kernel
  rw [← String.toList_inj, withoutSlashes, endSlashes, String.toList_append, String.toList_ofList,
    Url.toList_render_segments, Url.toList_render_segments, Url.toList_render_segments,
    Url.pathChars_append, hrows, List.append_cancel_right_eq]
  exact h.dropLast_iff

/-- Where the path of the base has names, the place that executes plans is found. -/
lemma rowsUrl_of_segments {client : Client} {names : List String}
    (hfile : Url.isFile client.base.scheme = false) (hpath : client.base.path = .segments names) :
    let r := { client.base with
      path := .segments (names.dropLast ++ ["v1", "rows"]), query := none, fragment := none }
    client.rowsUrl none = .ok r ∧
      ∀ t, client.rowsUrl (some t) = .ok { r with query := some ("timestamp=" ++ t.render) } := by
  have hresolve : client.base.resolve ["v1", "rows"] = .ok { client.base with
      path := .segments (names.dropLast ++ ["v1", "rows"]), query := none, fragment := none } := by
    simp only [Url.resolve, hpath, hfile, besideLast_false]
  refine ⟨?_, fun t => ?_⟩
  · rw [rowsUrl, hresolve]
    rfl
  · rw [rowsUrl, hresolve, ← encode_timestamp]
    rfl

/-- The text that a client reads depends on what stands before the slashes at the end alone. -/
lemma withOneSlash_congr {text text' : String} (h : withoutSlashes text = withoutSlashes text') :
    withOneSlash text = withOneSlash text' := by
  have hstem : text.toList.rdropWhile (· = '/') = text'.toList.rdropWhile (· = '/') :=
    String.ofList_injective h
  change String.ofList (text.toList.rdropWhile (· = '/') ++ ['/']) = _
  rw [hstem]
  rfl

/-- The place at which plans are executed lies below the path of a URL. -/
def KeepsPath (u r : Url) : Prop :=
  r.path.render = withoutSlashes u.path.render ++ "/v1/rows"

/-- **An accepted service URL keeps its path exactly if the base of the client ends in one slash.**
Let a description be accepted whose service URL is one of `http` or `https`, and let its text not
end in blanks, unless it has a query or a fragment.  Then the client accepts the URL as well, with
any slashes at the end of the text, and its plans are executed at a place on the same host.  The
path of this place is the path of the URL without the slashes at its end, followed by `/v1/rows`,
exactly if the path of the base has one slash at its end.  With a query or a fragment the path of
the base is that of the URL; without them, and without a blank or a backslash at the end of the
text, the path is kept exactly if no more slashes end it than end the text, or one at most.  A point
in time is named in the query, which is empty otherwise. -/
theorem rows_keep_base_path_iff {c : Job.Config} (hcheck : c.check = .ok ())
    (key : Option String) : ∃ u, Url.read c.service.url = .ok u ∧
      (u.IsWeb → Url.EndsPlainly c.service.url ∨ u.query ≠ none ∨ u.fragment ≠ none →
        ∃ (client : Client) (r : Url), new c.service.url key = .ok client ∧
          (∀ text, withoutSlashes text = withoutSlashes c.service.url →
            new text key = .ok client) ∧
          client.rowsUrl none = .ok r ∧
          r.scheme = u.scheme ∧ r.userInfo = u.userInfo ∧ r.host = u.host ∧ r.port = u.port ∧
          r.query = none ∧ r.fragment = none ∧
          (KeepsPath u r ↔ (endSlashes client.base.path.render).length = 1) ∧
          (u.query ≠ none ∨ u.fragment ≠ none →
            (KeepsPath u r ↔ (endSlashes u.path.render).length = 1)) ∧
          (Url.EndsVisibly c.service.url → u.query = none → u.fragment = none →
            (KeepsPath u r ↔
              (endSlashes u.path.render).length ≤ max 1 (endSlashes c.service.url).length)) ∧
          ∀ t, client.rowsUrl (some t)
            = .ok { r with query := some ("timestamp=" ++ t.render) }) := by
  obtain ⟨u, hread⟩ := Job.Config.exists_read_of_check hcheck
  refine ⟨u, hread, fun hweb hplain => ?_⟩
  obtain ⟨v, hv, hplace, hqueried, hvisible⟩ := Url.exists_read_concat_slash hread hweb hplain
  obtain ⟨names, names', hu, hpath, halike⟩ := hplace.path
  have hnew : ∀ text, withoutSlashes text = withoutSlashes c.service.url →
      new text key = .ok ⟨v, key⟩ := by
    intro text htext
    have htext' : Url.read (withOneSlash text) = .ok v := by
      rw [withOneSlash_congr htext]
      exact hv
    rw [new, htext']
  have hfile : Url.isFile (Client.mk v key).base.scheme = false := by
    rw [show (Client.mk v key).base.scheme = u.scheme from hplace.scheme]
    exact hweb.kind.1
  obtain ⟨hrows, htimed⟩ := rowsUrl_of_segments hfile hpath
  have hkept : KeepsPath u { v with
      path := .segments (names'.dropLast ++ ["v1", "rows"]), query := none, fragment := none } ↔
      (endSlashes v.path.render).length = 1 := by
    rw [KeepsPath, hu, hpath]
    exact render_rows_iff halike
  refine ⟨⟨v, key⟩, _, hnew _ rfl, hnew, hrows, hplace.scheme, hplace.userInfo, hplace.host,
    hplace.port, rfl, rfl, hkept, ?_, ?_, htimed⟩
  · intro hcut
    rw [← hqueried hcut]
    exact hkept
  · intro hends hquery hfragment
    exact hkept.trans (hvisible hends hquery hfragment)

/-- A description of a job that asks the service at a URL. -/
def authorsAt (url : String) : Job.Config :=
  { question := { dsl := some "op.fromView('demo', 'authors')" }, service := { url := url } }

/-- Such a description is accepted as soon as its URL can be read. -/
lemma check_authorsAt {url : String} {u : Url} (h : (Url.read url).toOption = some u) :
    (authorsAt url).check = .ok () := by
  have hread : Url.read url = .ok u := eq_ok_of_toOption h
  have hservice : (authorsAt url).service.check = .ok () := by
    simp [Job.Service.check, authorsAt, hread]
  have hquestion : (authorsAt url).question.check = .ok () := by
    rfl
  rw [Job.Config.check, hquestion, hservice]
  rfl

/-- A blank behind the port is dropped where the description is judged, but the client takes it for
a part of the port; and a query takes the last name of the path with it. -/
theorem accepted_urls_lose_base_path :
    ((authorsAt "http://localhost:8000 ").check = .ok () ∧
      (Url.read "http://localhost:8000 ").toOption.map Url.render
        = some "http://localhost:8000/" ∧
      (new "http://localhost:8000 " none).toOption = none) ∧
    (authorsAt "http://proxy.local/marklogic?database=x").check = .ok () ∧
      (Url.read "http://proxy.local/marklogic?database=x").toOption.map (fun u => u.path.render)
        = some "/marklogic" ∧
      (new "http://proxy.local/marklogic?database=x" none).toOption.bind
          (fun client => (client.rowsUrl none).toOption.map Url.render)
        = some "http://proxy.local/v1/rows" := by
  have hblank : (Url.read "http://localhost:8000 ").toOption
      = some ⟨"http", "", some "localhost", some 8000, .segments [""], none, none⟩ := by
    decide +kernel
  have hquery : (Url.read "http://proxy.local/marklogic?database=x").toOption
      = some ⟨"http", "", some "proxy.local", none, .segments ["marklogic"], some "database=x",
          none⟩ := by
    decide +kernel
  refine ⟨⟨check_authorsAt hblank, ?_, ?_⟩, check_authorsAt hquery, ?_, ?_⟩
  · rw [hblank]
    decide +kernel
  · decide +kernel
  · rw [hquery]
    decide +kernel
  · decide +kernel

/-- A base path is kept, however many slashes end it. -/
theorem base_path_of_proxy_is_kept : ∃ client r,
    new "http://proxy.local/marklogic//" none = .ok client ∧
      new "http://proxy.local/marklogic" none = .ok client ∧
      client.rowsUrl none = .ok r ∧ r.path.render = "/marklogic/v1/rows" := by
  have haccepted : (Url.read "http://proxy.local/marklogic//").toOption
      = some ⟨"http", "", some "proxy.local", none, .segments ["marklogic", "", ""], none,
          none⟩ := by
    decide +kernel
  have hvisible : Url.EndsVisibly "http://proxy.local/marklogic//" := by
    have hlast : "http://proxy.local/marklogic//".toList.getLast? = some '/' := by
      decide +kernel
    intro c hc
    obtain rfl : '/' = c := Option.some.inj (hlast.symm.trans hc)
    decide
  obtain ⟨u, hread, hkept⟩ := rows_keep_base_path_iff (check_authorsAt haccepted) none
  obtain rfl := Except.ok.inj ((eq_ok_of_toOption haccepted).symm.trans hread)
  obtain ⟨client, r, hnew, hslashes, hrows, -, -, -, -, -, -, -, -, hpath, -⟩ :=
    hkept (Or.inl rfl) (Or.inl hvisible.endsPlainly)
  have hsame : withoutSlashes "http://proxy.local/marklogic"
      = withoutSlashes "http://proxy.local/marklogic//" := by
    decide +kernel
  have htwo : (endSlashes (Url.Path.segments ["marklogic", "", ""]).render).length
      ≤ max 1 (endSlashes "http://proxy.local/marklogic//").length := by
    decide +kernel
  have hstem : withoutSlashes (Url.Path.segments ["marklogic", "", ""]).render ++ "/v1/rows"
      = "/marklogic/v1/rows" := by
    decide +kernel
  exact ⟨client, r, hnew, hslashes _ hsame, hrows, ((hpath hvisible rfl rfl).2 htwo).trans hstem⟩

end Remote.Client

end Tidemark
