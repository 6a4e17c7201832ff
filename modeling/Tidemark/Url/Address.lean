import Tidemark.Text.Pieces
import Tidemark.Url.Fault
import Tidemark.Url.Percent

/-!
# Numeric hosts

A host whose last label is a number is an IPv4 address in up to four parts, each in base ten, eight
or sixteen; a host between brackets is an IPv6 address of eight groups, of which one run of zeros
may be left out.
-/

namespace Tidemark.Url

namespace Ipv4

/-- The value of digits in a base, if all of them are digits of that base. -/
def digits? (base : Nat) (cs : List Char) : Option Nat :=
  (cs.mapM fun c => (Percent.hexValue? c).filter (· < base)).map
    (List.foldl (fun n d => base * n + d) 0)

/-- The number that one part stands for. -/
def part? : List Char → Option Nat
  | [] => none
  | '0' :: 'x' :: cs => digits? 16 cs
  | '0' :: 'X' :: cs => digits? 16 cs
  | '0' :: c :: cs => digits? 8 (c :: cs)
  | cs => digits? 10 cs

/-- The labels of a host without the empty one that a dot at the end leaves. -/
def labels (host : List Char) : List (List Char) :=
  let ls := Text.pieces '.' host
  if ls.getLast? = some [] then ls.dropLast else ls

/-- Whether the last label of a host is a number, so that the host must be an address. -/
def endsInNumber (host : List Char) : Bool :=
  match (labels host).getLast? with
  | none => false
  | some l => (l ≠ [] ∧ l.all fun c => '0' ≤ c && c ≤ '9') || (part? l).isSome

/-- The address that parts stand for: all but the last are bytes, the last fills the rest. -/
def ofParts? (parts : List Nat) : Option Nat :=
  match parts.getLast? with
  | none => none
  | some last =>
    let front := parts.dropLast
    if 4 < parts.length ∨ front.any (255 < ·) ∨ Nat.pow 256 (4 - front.length) ≤ last then none
    else some (front.foldl (fun n b => 256 * n + b) 0 * Nat.pow 256 (4 - front.length) + last)

/-- Reads an address. -/
def read (host : List Char) : Except Fault Nat :=
  match ((labels host).mapM part?).bind ofParts? with
  | some a => .ok a
  | none => .error .invalidIpv4

/-- An address as four bytes in decimal. -/
def render (a : Nat) : String :=
  String.intercalate "."
    ([a / 0x1000000, a / 0x10000 % 256, a / 256 % 256, a % 256].map toString)

end Ipv4

namespace Ipv6

/-- One group of up to four hexadecimal digits. -/
def group? (cs : List Char) : Option Nat :=
  if cs = [] ∨ 4 < cs.length then none else Ipv4.digits? 16 cs

/-- A byte in decimal without zeros in front. -/
def byte? (cs : List Char) : Option Nat :=
  match cs with
  | [] => none
  | '0' :: _ :: _ => none
  | cs => if 3 < cs.length then none else (Ipv4.digits? 10 cs).filter (· ≤ 255)

/-- The two groups that an address of four bytes stands for. -/
def tail? (cs : List Char) : Option (List Nat) :=
  match (Text.pieces '.' cs).mapM byte? with
  | some [a, b, c, d] => some [256 * a + b, 256 * c + d]
  | _ => none

/-- The groups of a part of an address; the last may be written as four bytes where `tail` allows
it. -/
def groups? (tail : Bool) (cs : List Char) : Option (List Nat) :=
  if cs = [] then some []
  else
    let ps := Text.pieces ':' cs
    let last := ps.getLast?.getD []
    if tail ∧ last.contains '.' then do
      let front ← ps.dropLast.mapM group?
      return front ++ (← tail? last)
    else ps.mapM group?

/-- The text before and after the first pair of colons. -/
def splitGap : List Char → Option (List Char × List Char)
  | [] => none
  | ':' :: ':' :: cs => some ([], cs)
  | c :: cs => (splitGap cs).map fun r => (c :: r.1, r.2)

/-- The eight groups of an address. -/
def read? (cs : List Char) : Option (List Nat) :=
  match splitGap cs with
  | none => (groups? true cs).filter (·.length = 8)
  | some (left, right) => do
    let l ← groups? false left
    let r ← groups? true right
    if 7 < l.length + r.length then none
    else return l ++ List.replicate (8 - l.length - r.length) 0 ++ r

/-- Reads an address. -/
def read (cs : List Char) : Except Fault (List Nat) :=
  match read? cs with
  | some gs => .ok gs
  | none => .error .invalidIpv6

/-- The length of the run of zeros at the front. -/
def zeros (gs : List Nat) : Nat :=
  (gs.takeWhile (· = 0)).length

/-- The start and the length of the first of the longest runs of zeros. -/
def longestRun : Nat → List Nat → Nat × Nat
  | _, [] => (0, 0)
  | i, g :: gs =>
    let here := zeros (g :: gs)
    let later := longestRun (i + 1) gs
    if later.2 ≤ here then (i, here) else later

/-- A group in hexadecimal. -/
def groupText (g : Nat) : String :=
  String.ofList (Nat.toDigits 16 g)

/-- An address in its shortest form. -/
def render (gs : List Nat) : String :=
  let run := longestRun 0 gs
  let text := fun gs => String.intercalate ":" (gs.map groupText)
  if run.2 < 2 then text gs
  else text (gs.take run.1) ++ "::" ++ text (gs.drop (run.1 + run.2))

end Ipv6

end Tidemark.Url
