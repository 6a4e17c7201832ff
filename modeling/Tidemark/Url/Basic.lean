import Tidemark.Url.Percent

/-!
# URLs

A URL holds its parts as they are written: encoded, in lower case where case does not matter, and
without the default port of its scheme.
-/

namespace Tidemark

/-- The path of a URL: segments with a slash before each, or a text without structure. -/
inductive Url.Path where
  | segments (names : List String)
  | opaqueText (text : String)
  deriving DecidableEq, Repr

/-- A URL. -/
structure Url where
  scheme : String
  /-- User name and password. -/
  userInfo : String
  /-- The host; none if there are no two slashes after the scheme. -/
  host : Option String
  port : Option Nat
  path : Url.Path
  query : Option String
  fragment : Option String
  deriving DecidableEq, Repr

namespace Url

/-- The schemes whose URLs name a host, with their default ports. -/
def specialSchemes : List (String × Option Nat) :=
  [("http", some 80), ("https", some 443), ("ws", some 80), ("wss", some 443), ("ftp", some 21),
    ("file", none)]

/-- Whether a scheme has rules for hosts. -/
def isSpecial (scheme : String) : Bool :=
  specialSchemes.any (·.1 = scheme)

/-- Whether a scheme names files. -/
def isFile (scheme : String) : Bool :=
  scheme = "file"

/-- The port that a scheme implies. -/
def defaultPort (scheme : String) : Option Nat :=
  (specialSchemes.find? (·.1 = scheme)).bind Prod.snd

namespace Path

/-- The text of a path. -/
def render : Path → String
  | .segments names => String.join (names.map ("/" ++ ·))
  | .opaqueText text => text

end Path

/-- The part of a URL from its two slashes up to its path. -/
def authorityText (u : Url) : String :=
  match u.host with
  | none => match u.path with
    | .segments ("" :: _ :: _) => "/."
    | _ => ""
  | some host =>
    "//" ++ (if u.userInfo = "" then "" else u.userInfo ++ "@") ++ host
      ++ (match u.port with | none => "" | some p => ":" ++ toString p)

/-- The text of a URL. -/
def render (u : Url) : String :=
  u.scheme ++ ":" ++ u.authorityText ++ u.path.render
    ++ (match u.query with | none => "" | some q => "?" ++ q)
    ++ (match u.fragment with | none => "" | some f => "#" ++ f)

/-- The URL with names and values added to its query. -/
def addPairs (u : Url) (ps : List (String × String)) : Url :=
  match u.query with
  | none => { u with query := some (Form.encode ps) }
  | some q =>
    { u with query := some (if q = "" then Form.encode ps else q ++ "&" ++ Form.encode ps) }

end Url

end Tidemark
