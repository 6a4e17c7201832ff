import Tidemark.Url.Address
import Tidemark.Url.Basic
import Tidemark.Url.Domain

/-!
# Reading and resolving URLs

A text is cleaned of blanks and line ends, then cut into scheme, authority, path, query and
fragment, and each part is brought into the form in which it is written.  The special schemes allow
backslashes for slashes and any number of slashes before the host.
-/

namespace Tidemark.Url

/-! ### Cutting a text -/

/-- The characters that are dropped at the ends of a text: controls and the space. -/
def isEdge (c : Char) : Bool :=
  c.toNat ≤ 0x20

/-- The characters that are dropped anywhere. -/
def isInvisible (c : Char) : Bool :=
  c = '\t' || c = '\n' || c = '\r'

/-- A text without what does not count in it. -/
def clean (cs : List Char) : List Char :=
  ((cs.dropWhile isEdge).reverse.dropWhile isEdge).reverse.filter fun c => !isInvisible c

/-- Whether a character is an ASCII letter. -/
def isLetter (c : Char) : Bool :=
  ('a' ≤ c && c ≤ 'z') || ('A' ≤ c && c ≤ 'Z')

/-- Whether a character is an ASCII digit. -/
def isDigit (c : Char) : Bool :=
  '0' ≤ c && c ≤ '9'

/-- The characters of a scheme after its first letter. -/
def isSchemeChar (c : Char) : Bool :=
  isLetter c || isDigit c || c = '+' || c = '-' || c = '.'

/-- The scheme in lower case, and the text after its colon. -/
def splitScheme : List Char → Option (String × List Char)
  | [] => none
  | c :: cs =>
    if isLetter c then
      match (c :: cs).dropWhile isSchemeChar with
      | ':' :: rest =>
        let scheme := ((c :: cs).takeWhile isSchemeChar).map Char.toLower
        some (String.ofList scheme, rest)
      | _ => none
    else none

/-- The text before the first occurrence of a character, and the text after it if there is one. -/
def cutAt (x : Char) (cs : List Char) : List Char × Option (List Char) :=
  match cs.dropWhile (· ≠ x) with
  | [] => (cs, none)
  | _ :: rest => (cs.takeWhile (· ≠ x), some rest)

/-- Whether a character ends an authority or a segment. -/
def isSlash (special : Bool) (c : Char) : Bool :=
  c = '/' || (special && c = '\\')

/-! ### Paths -/

/-- A segment with the encoded dots in it decoded. -/
def plainDots : List Char → List Char
  | '%' :: '2' :: 'e' :: cs => '.' :: plainDots cs
  | '%' :: '2' :: 'E' :: cs => '.' :: plainDots cs
  | c :: cs => c :: plainDots cs
  | [] => []

/-- Whether a segment leads to the directory above. -/
def isDoubleDot (s : List Char) : Bool :=
  plainDots s = ['.', '.']

/-- Whether a segment stays where it is. -/
def isSingleDot (s : List Char) : Bool :=
  plainDots s = ['.']

/-- The letter of a segment that names a drive. -/
def driveLetter? : List Char → Option Char
  | [c, d] => if isLetter c ∧ (d = ':' ∨ d = '|') then some c else none
  | _ => none

/-- Whether a segment names a drive, perhaps with a backslash after it. -/
def startsWithDrive : List Char → Bool
  | c :: d :: cs => isLetter c && (d = ':' || d = '|') && (cs.isEmpty || cs.head? = some '\\')
  | _ => false

/-- The letter of a segment that names a drive and goes on, and what it goes on with. -/
def splitDrive : List Char → Option (Char × List Char)
  | c :: ':' :: d :: cs => if isLetter c then some (c, d :: cs) else none
  | _ => none

/-- The segments of a path on the way along it. -/
structure Trail where
  names : List String
  /-- Whether the path of a file begins with a drive, which takes the place of a host. -/
  onDrive : Bool
  deriving DecidableEq, Repr

namespace Trail

/-- The path without segments. -/
def start : Trail := ⟨[], false⟩

/-- The path one segment up; nothing lies above a drive. -/
def up (t : Trail) : Trail :=
  match t.names.getLast? with
  | some s => if startsWithDrive s.toList then t else { t with names := t.names.dropLast }
  | none => t

/-- The path with a name at its end. -/
def add (t : Trail) (s : List Char) : Trail :=
  { t with names := t.names ++ [String.ofList (Percent.encode Percent.inPath s)] }

/-- The path with one more segment.  A drive at the front of the path of a file ends its segment. -/
def extend (file : Bool) (t : Trail) (s : List Char) : Trail :=
  if file ∧ t.names = [] then
    match driveLetter? s, splitDrive s with
    | some c, _ => ⟨[String.ofList [c, ':']], true⟩
    | none, some (c, rest) => { t with names := [String.ofList [c, ':']] }.add rest
    | none, none => t.add s
  else t.add s

end Trail

/-- Walks along segments.  A dot segment at the end leaves an empty segment there. -/
def walk (file : Bool) : List (List Char) → Trail → Trail
  | [], t => t
  | [s], t =>
    if isDoubleDot s then t.up.add []
    else if isSingleDot s then t.add []
    else t.extend file s
  | s :: s' :: rest, t =>
    walk file (s' :: rest)
      (if isDoubleDot s then t.up
       else if isSingleDot s then t
       else t.extend file s)

/-- The segments of a text that slashes separate. -/
def segments (special : Bool) (cs : List Char) : List (List Char) :=
  Text.pieces '/' (cs.map fun c => if isSlash special c then '/' else c)

/-- The segments of a path, without the slash that may stand at its front. -/
def segmentsOfPath (special : Bool) : List Char → List (List Char)
  | c :: cs => segments special (if isSlash special c then cs else c :: cs)
  | [] => segments special []

/-- The names along a path of a scheme other than that of files. -/
def pathNames (special : Bool) (cs : List Char) : List String :=
  (walk false (segmentsOfPath special cs) Trail.start).names

/-- The segments of a file without empty ones at the front. -/
def dropEmpty : List String → List String
  | "" :: s :: rest => dropEmpty (s :: rest)
  | path => path

/-! ### Authorities -/

/-- User name and password, encoded; an empty password loses its colon. -/
def readUserInfo (cs : List Char) : String :=
  let (name, password) := cutAt ':' cs
  let encoded := fun cs => String.ofList (Percent.encode Percent.inUserInfo cs)
  match password with
  | none | some [] => encoded name
  | some p => encoded name ++ ":" ++ encoded p

/-- The text after the last at-sign, and the text before it if there is one. -/
def splitUserInfo (cs : List Char) : Option (List Char) × List Char :=
  match cs.reverse.dropWhile (· ≠ '@') with
  | [] => (none, cs)
  | _ :: before => (some before.reverse, (cs.reverse.takeWhile (· ≠ '@')).reverse)

/-- The host, and the text of the port if there is a colon.  Colons in brackets belong to the host;
the flag says that a bracket is open. -/
def splitPort : Bool → List Char → List Char × Option (List Char)
  | _, [] => ([], none)
  | inside, c :: cs =>
    if c = ':' ∧ ¬ inside then ([], some cs)
    else
      let r := splitPort (if c = '[' then true else if c = ']' then false else inside) cs
      (c :: r.1, r.2)

/-- Reads a port, which ends at a backslash, and gives what follows it; the default port of the
scheme counts as none. -/
def readPort (scheme : String) (cs : List Char) : Except Fault (Option Nat × List Char) :=
  let digits := cs.takeWhile isDigit
  let rest := cs.dropWhile isDigit
  match Ipv4.digits? 10 digits with
  | none => .error .invalidPort
  | some n =>
    if 65535 < n ∨ (rest ≠ [] ∧ rest.head? ≠ some '\\') then .error .invalidPort
    else .ok (if digits = [] ∨ defaultPort scheme = some n then none else some n, rest)

/-- An IPv6 address in brackets, if a bracket opens the host. -/
def readBracketed : List Char → Option (Except Fault String)
  | '[' :: cs =>
    some <|
      match cs.reverse with
      | ']' :: inner => (Ipv6.read inner.reverse).map fun gs => "[" ++ Ipv6.render gs ++ "]"
      | _ => .error .invalidIpv6
  | _ => none

/-- Reads the host of a special scheme. -/
def readSpecialHost (cs : List Char) : Except Fault String :=
  match readBracketed cs with
  | some r => r
  | none =>
    match String.fromUTF8? ⟨(Percent.decode cs).toArray⟩ with
    | none => .error .invalidDomain
    | some name => do
      let domain ← Domain.toAscii name.toList
      if domain = [] then throw .emptyHost
      else if Ipv4.endsInNumber domain then return Ipv4.render (← Ipv4.read domain)
      else return String.ofList domain

/-- The characters that a host without rules must not hold. -/
def isForbiddenInHost (c : Char) : Bool :=
  ['\x00', '\t', '\n', '\r', ' ', '#', '/', ':', '<', '>', '?', '@', '[', '\\', ']', '^',
    '|'].contains c

/-- Reads the host of a scheme without rules for hosts. -/
def readOpaqueHost (cs : List Char) : Except Fault String :=
  match readBracketed cs with
  | some r => r
  | none =>
    if cs.any isForbiddenInHost then .error .invalidHostCharacter
    else .ok (String.ofList (Percent.encode Percent.isControl cs))

/-- What stands between the two slashes and the path. -/
structure Authority where
  userInfo : String
  host : String
  port : Option Nat

/-- Reads an authority and gives what follows its port; the flag says that nothing follows the
text. -/
def readAuthority (scheme : String) (atEnd : Bool) (cs : List Char) :
    Except Fault (Authority × List Char) := do
  let special := isSpecial scheme
  let (info, rest) := splitUserInfo cs
  if info = some [] ∧ rest = [] ∧ ¬ atEnd then throw .emptyHost
  let userInfo := readUserInfo (info.getD [])
  let (hostText, portText) := splitPort false rest
  if hostText = [] ∧ (special ∨ portText.isSome ∨ userInfo ≠ "") then throw .emptyHost
  let host ← if special then readSpecialHost hostText else readOpaqueHost hostText
  let (port, rest) ← readPort scheme (portText.getD [])
  return (⟨userInfo, host, port⟩, rest)

/-! ### Whole texts -/

/-- A URL without query and fragment. -/
abbrev Stem := Url

/-- The stem of a special scheme other than that of files. -/
def readSpecial (scheme : String) (atEnd : Bool) (cs : List Char) : Except Fault Stem := do
  let cs := cs.dropWhile (isSlash true)
  let text := cs.takeWhile fun c => !isSlash true c
  let rest := cs.dropWhile fun c => !isSlash true c
  let (a, _) ← readAuthority scheme (atEnd ∧ rest = []) text
  return ⟨scheme, a.userInfo, some a.host, a.port, .segments (pathNames true rest), none, none⟩

/-- The stem of a scheme without rules for hosts. -/
def readPlain (scheme : String) (atEnd : Bool) (cs : List Char) : Except Fault Stem :=
  match cs with
  | '/' :: '/' :: cs => do
    let text := cs.takeWhile (· ≠ '/')
    let rest := cs.dropWhile (· ≠ '/')
    let (a, afterPort) ← readAuthority scheme (atEnd ∧ rest = []) text
    let path := afterPort ++ rest
    let names := if path = [] then [] else pathNames false path
    return ⟨scheme, a.userInfo, some a.host, a.port, .segments names, none, none⟩
  | '/' :: cs => .ok ⟨scheme, "", none, none, .segments (pathNames false cs), none, none⟩
  | cs =>
    let text := String.ofList (Percent.encode Percent.isControl cs)
    .ok ⟨scheme, "", none, none, .opaqueText text, none, none⟩

/-- The stem of a file on a host; a drive takes the place of the host. -/
def fileStem (scheme host : String) (path : List (List Char)) : Stem :=
  let t := walk true path Trail.start
  let host := if t.onDrive then "" else host
  ⟨scheme, "", some host, none, .segments (dropEmpty t.names), none, none⟩

/-- The stem of the scheme of files.  Where no host stands between two slashes and the path, the
slash before the path leaves an empty segment at its front. -/
def readFileStem (scheme : String) (cs : List Char) : Except Fault Stem :=
  match cs with
  | c :: d :: rest =>
    if isSlash true c ∧ isSlash true d then
      let text := rest.takeWhile fun c => !isSlash true c
      if text = [] ∨ (driveLetter? text).isSome then
        .ok (fileStem scheme "" (segments true rest))
      else do
        let host ← readSpecialHost text
        let path := rest.drop text.length
        if host = "localhost" then return fileStem scheme "" (segments true path)
        else return fileStem scheme host (segmentsOfPath true path)
    else .ok (fileStem scheme "" (segmentsOfPath true cs))
  | cs => .ok (fileStem scheme "" (segmentsOfPath true cs))

/-- Reads a text as a URL. -/
def read (text : String) : Except Fault Url :=
  match splitScheme (clean text.toList) with
  | none => .error .relativeWithoutBase
  | some (scheme, cs) => do
    let (cs, fragment) := cutAt '#' cs
    let (cs, query) := cutAt '?' cs
    let atEnd := fragment.isNone && query.isNone
    let stem ←
      if isFile scheme then readFileStem scheme cs
      else if isSpecial scheme then readSpecial scheme atEnd cs
      else readPlain scheme atEnd cs
    let querySet := if isSpecial scheme then Percent.inSpecialQuery else Percent.inQuery
    return { stem with
      query := query.map fun q => String.ofList (Percent.encode querySet q)
      fragment := fragment.map fun f => String.ofList (Percent.encode Percent.inFragment f) }

/-! ### Places beside one another -/

/-- Whether a name is a drive of a path that has been read. -/
def isDriveName (name : String) : Bool :=
  match name.toList with
  | [c, ':'] => isLetter c
  | _ => false

/-- The path that takes names in the place of its last segment.  A drive at the end of the path of
a file stays: a name follows it if it is the whole path, and else is written on to it. -/
def besideLast (file : Bool) (path names : List String) : List String :=
  match path.getLast?, names with
  | some last, name :: rest =>
    if file ∧ isDriveName last then
      if path.length = 1 then path ++ names else path.dropLast ++ (last ++ name) :: rest
    else path.dropLast ++ names
  | _, _ => path.dropLast ++ names

/-- The URL that names a place beside the last segment of another one. -/
def resolve (u : Url) (names : List String) : Except Fault Url :=
  match u.path with
  | .opaqueText _ => .error .relativeToOpaque
  | .segments path =>
    .ok { u with
      path := .segments (besideLast (isFile u.scheme) path names), query := none, fragment := none }

end Tidemark.Url
