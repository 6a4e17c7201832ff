import Tidemark.Json.Scan
import Tidemark.Remote.Http
import Tidemark.Text.Count
import Tidemark.Text.Pieces

/-!
# Messages on a connection

A message is a head of lines, an empty line, and a body.  A request tells the length of its body
and asks for the connection to be closed after the answer.  The body of an answer ends where its
length says, after its last chunk, or where the connection ends; it may break off before.
-/

namespace Tidemark.Remote.Message

/-- What travels on a connection. -/
abbrev Bytes := List UInt8

/-! ### Requests -/

/-- What a request asks for: the path and the query of its URL. -/
def target (u : Url) : String :=
  (if u.path.render = "" then "/" else u.path.render)
    ++ (match u.query with | none => "" | some q => "?" ++ q)

/-- The host that a request is sent to, with a port that its scheme does not imply. -/
def hostText (u : Url) : String :=
  u.host.getD "" ++ (match u.port with | none => "" | some p => ":" ++ toString p)

/-- A header in the head of a message. -/
def headerLine (h : String × String) : String :=
  h.1 ++ ": " ++ h.2

/-- The headers that every request has besides its own. -/
def addedHeaders (r : Request) : List (String × String) :=
  (if r.headers.any fun h => headerKey h.1 = "accept" then [] else [("accept", "*/*")])
    ++ (if r.body = "" then [] else [("content-length", toString r.body.utf8ByteSize)])
    ++ [("host", hostText r.url), ("connection", "close")]

/-- The head of a request. -/
def headLines (r : Request) : List String :=
  (r.method ++ " " ++ target r.url ++ " HTTP/1.1")
    :: (r.headers ++ addedHeaders r).map headerLine

/-- A request as it is sent. -/
def encode (r : Request) : ByteArray :=
  (String.join ((headLines r ++ [""]).map (· ++ "\r\n")) ++ r.body).toUTF8

/-! ### Lines -/

/-- The line at the front, without its end. -/
def firstLine (bs : Bytes) : Bytes :=
  (bs.takeWhile (· ≠ 10)).filter (· ≠ 13)

/-- What follows the line at the front. -/
def afterLine (bs : Bytes) : Bytes :=
  (bs.dropWhile (· ≠ 10)).drop 1

theorem length_afterLine_lt {bs : Bytes} (h : bs ≠ []) : (afterLine bs).length < bs.length := by
  have hle := (List.dropWhile_suffix (l := bs) (· ≠ 10)).length_le
  have hpos : 0 < bs.length := List.length_pos_iff.2 h
  simp only [afterLine, List.length_drop]
  omega

/-- The lines up to the first empty one, and what follows it. -/
def cutHead (bs : Bytes) : List Bytes × Bytes :=
  if h : bs = [] then ([], [])
  else if firstLine bs = [] then ([], afterLine bs)
  else
    have := length_afterLine_lt h
    let r := cutHead (afterLine bs)
    (firstLine bs :: r.1, r.2)
termination_by bs.length

/-- The text of bytes, read one by one. -/
def latin (bs : Bytes) : List Char :=
  bs.map fun b => Char.ofNat b.toNat

/-! ### Heads -/

/-- A number in the given base. -/
def number? (base : Nat) (digit : Char → Option Nat) : List Char → Option Nat
  | [] => none
  | cs => cs.foldlM (fun n c => (digit c).map (base * n + ·)) 0

/-- The status in the first line of an answer. -/
def status? (l : Bytes) : Option Nat :=
  match Text.pieces ' ' (latin l) with
  | version :: code :: _ =>
    if String.ofList (version.take 7) = "HTTP/1." then number? 10 Text.Count.digit? code else none
  | _ => none

/-- Whether a byte is a space or a tab. -/
def isGap (b : UInt8) : Bool :=
  b = 32 || b = 9

/-- Bytes without spaces and tabs at their ends. -/
def trimGaps (bs : Bytes) : Bytes :=
  ((bs.dropWhile isGap).reverse.dropWhile isGap).reverse

/-- A header with its value. -/
def header (l : Bytes) : String × ByteArray :=
  let name := l.takeWhile (· ≠ 58)
  let value := (l.dropWhile (· ≠ 58)).drop 1
  (String.ofList (latin name), ⟨(trimGaps value).toArray⟩)

/-! ### Bodies -/

/-- The length of a chunk, before any extension. -/
def chunkLength? (l : Bytes) : Option Nat :=
  number? 16 Json.Scan.hexValue? (latin (trimGaps (l.takeWhile (· ≠ 59))))

/-- The chunks of a body, put together. -/
def joinChunks (bs : Bytes) : Option Bytes :=
  if h : bs = [] then none
  else
    match chunkLength? (firstLine bs) with
    | none => none
    | some 0 => some []
    | some n =>
      have := length_afterLine_lt h
      let rest := afterLine bs
      if rest.length < n + 2 then none
      else (joinChunks (rest.drop (n + 2))).map (rest.take n ++ ·)
termination_by bs.length
decreasing_by simp only [List.length_drop]; omega

/-- How the end of a body is told. -/
inductive Framing where
  | nothing
  | chunks
  | length (n : Nat)
  | toEnd
  deriving DecidableEq, Repr

/-- How the end of the body of an answer is told; none if its length is no number. -/
def framing? (head : Response) : Option Framing :=
  if head.status = 204 ∨ head.status = 304 then some .nothing
  else
    match head.header? "transfer-encoding", head.header? "content-length" with
    | some coding, _ => some (if headerKey coding = "chunked" then .chunks else .toEnd)
    | none, some n => (number? 10 Text.Count.digit? n.toList).map .length
    | none, none => some .toEnd

/-- The body in what follows a head, unless it breaks off. -/
def body? (bs : Bytes) : Framing → Option Bytes
  | .nothing => some []
  | .chunks => joinChunks bs
  | .length n => if bs.length < n then none else some (bs.take n)
  | .toEnd => some bs

/-- Reads an answer from all that came on a connection. -/
def decode? (bs : Bytes) : Option Response := do
  let (lines, rest) := cutHead bs
  let first ← lines.head?
  let head : Response := ⟨← status? first, (lines.drop 1).map header, none⟩
  let framing ← framing? head
  return { head with body := (body? rest framing).map fun bytes => ⟨bytes.toArray⟩ }

end Tidemark.Remote.Message
