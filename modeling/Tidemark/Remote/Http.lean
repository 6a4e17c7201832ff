import Tidemark.Text.Utf8
import Tidemark.Url.Basic

/-!
# Requests and answers over HTTP

A transport sends a request and brings back the answer, or fails.  The body of an answer comes after
its head and may break off.  A header whose bytes are not all printable cannot be sent; one that
came in is not readable.  Which text the bytes of a body are is for the transport to say: it may
follow the character set that the headers name, but what is UTF-8 and is not said to be anything
else has to be read as that.
-/

namespace Tidemark.Remote

/-- A request. -/
structure Request where
  method : String
  url : Url
  headers : List (String × String)
  body : String
  deriving DecidableEq, Repr

/-- An answer. -/
structure Response where
  status : Nat
  headers : List (String × ByteArray)
  /-- The body, unless it broke off. -/
  body : Option ByteArray

/-- A header name in lower case; the case of header names does not matter. -/
def headerKey (name : String) : String :=
  String.ofList (name.toList.map Char.toLower)

/-! ### Bodies as text -/

/-- Whether the value of a header of the name `content-type` speaks of UTF-8 or of no character set:
behind the media type stands nothing, or that set alone. -/
def isPlainType (value : ByteArray) : Bool :=
  let parameters := value.toList.dropWhile (· ≠ 59)
  parameters = [] || parameters = "; charset=utf-8".toUTF8.toList

/-- Nothing in the headers of an answer or at the front of its text says that its bytes are anything
but UTF-8. -/
structure IsPlain (headers : List (String × ByteArray)) (s : String) : Prop where
  typed : ∀ h ∈ headers, headerKey h.1 = "content-type" → isPlainType h.2 = true
  /-- A byte order mark at the front does not belong to a text. -/
  unmarked : s.toList.head? ≠ some '\uFEFF'

/-- How the bytes of a body are read as text, with the headers that came before them. -/
structure TextReading where
  read : List (String × ByteArray) → ByteArray → String
  /-- What is plain is read as UTF-8. -/
  read_plain {headers : List (String × ByteArray)} {s : String} (h : IsPlain headers s) :
    read headers s.toUTF8 = s

namespace TextReading

/-- The text of bytes in UTF-8, or nearly so. -/
def utf8Text (bytes : ByteArray) : String :=
  (String.fromUTF8? bytes).getD (String.ofList (Text.Utf8.decode bytes.toList))

/-- A text without the byte order mark at its front. -/
def dropMark (s : String) : String :=
  if s.toList.head? = some '\uFEFF' then String.ofList s.toList.tail else s

/-- The reading that takes every body for UTF-8, whatever the headers say. -/
def utf8 : TextReading where
  read _ bytes := dropMark (utf8Text bytes)
  read_plain {_ s} h := by
    rw [utf8Text, Text.fromUTF8?_toUTF8]
    exact if_neg h.unmarked

end TextReading

/-- What sends requests and brings back answers. -/
structure Transport (m : Type → Type) where
  /-- Sends a request and brings back the answer, if one comes. -/
  send : Request → m (Option Response)
  /-- How the bodies of answers are read. -/
  reading : TextReading

/-- Whether a header can be sent with a value: controls other than the tab cannot. -/
def isSendable (value : String) : Bool :=
  value.toList.all fun c => c = '\t' || (0x20 ≤ c.toNat && c.toNat ≠ 0x7F)

namespace Request

/-- The schemes that requests can be sent by. -/
def schemes : List String := ["http", "https"]

/-- Whether a request can be sent at all. -/
def isValid (r : Request) : Bool :=
  schemes.contains r.url.scheme && r.headers.all fun h => isSendable h.2

end Request

namespace Response

/-- Whether the answer reports success. -/
def isSuccess (r : Response) : Bool :=
  200 ≤ r.status && r.status < 300

theorem isSuccess_iff {r : Response} : r.isSuccess = true ↔ r.status / 100 = 2 := by
  rw [isSuccess, Bool.and_eq_true, decide_eq_true_eq, decide_eq_true_eq]
  omega

/-- The text of a header value whose bytes are all printable ASCII or tabs. -/
def printable? (value : ByteArray) : Option String :=
  if value.toList.all fun b => b = 9 || (32 ≤ b && b < 127) then
    some (String.ofList (value.toList.map fun b => Char.ofNat b.toNat))
  else none

/-- The text of the first header of a name, if it is readable. -/
def header? (r : Response) (name : String) : Option String :=
  (r.headers.find? fun h => headerKey h.1 = headerKey name).bind fun h => printable? h.2

/-- The body of an answer as text, unless it broke off. -/
def text? (r : Response) (reading : TextReading) : Option String :=
  r.body.map (reading.read r.headers)

end Response

end Tidemark.Remote
