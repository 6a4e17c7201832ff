/-!
# Blanks, comments and strings of TOML

A scanner reads something from the front of a text and returns what is left, or nothing if the text
does not start that way.  Since every way of being wrong is reported alike, a scanner gives no
reason.
-/

namespace Tidemark.Toml

/-- Reads an `α` from the front of a text. -/
abbrev Scanner (α : Type) := List Char → Option (α × List Char)

namespace Scan

/-! ### Blanks, line ends and comments -/

/-- The blanks within a line. -/
def isBlank (c : Char) : Bool :=
  c = ' ' || c = '\t'

/-- The characters that comments and strings may hold: no controls other than the tab. -/
def isText (c : Char) : Bool :=
  c = '\t' || (0x20 ≤ c.toNat && c.toNat ≠ 0x7F)

/-- The text after the blanks at its front. -/
def skipBlanks (cs : List Char) : List Char :=
  cs.dropWhile isBlank

/-- The text after a line end. -/
def newline : List Char → Option (List Char)
  | '\n' :: cs => some cs
  | '\r' :: '\n' :: cs => some cs
  | _ => none

/-- The text after a comment, if there is one. -/
def skipComment : List Char → List Char
  | '#' :: cs => cs.dropWhile isText
  | cs => cs

/-- The text after the rest of a line that holds nothing more than a comment. -/
def endLine (cs : List Char) : Option (List Char) :=
  match skipComment (skipBlanks cs) with
  | [] => some []
  | cs => newline cs

/-- The text after blanks, line ends and comments; the flag says that a comment is open. -/
def skipVoid : Bool → List Char → List Char
  | _, [] => []
  | _, '\n' :: cs => skipVoid false cs
  | _, '\r' :: '\n' :: cs => skipVoid false cs
  | true, c :: cs => if isText c then skipVoid true cs else c :: cs
  | false, c :: cs =>
    if isBlank c then skipVoid false cs
    else if c = '#' then skipVoid true cs
    else c :: cs

/-- The text after the blanks and line ends at its front. -/
def skipLines : List Char → List Char
  | '\r' :: '\n' :: cs => skipLines cs
  | c :: cs => if isBlank c ∨ c = '\n' then skipLines cs else c :: cs
  | [] => []

/-- The text after a word. -/
def word : List Char → List Char → Option (List Char)
  | [], cs => some cs
  | w :: ws, c :: cs => if w = c then word ws cs else none
  | _ :: _, [] => none

/-! ### Escapes -/

/-- The value of a digit in a base up to 16. -/
def digit? (base : Nat) (c : Char) : Option Nat :=
  let d :=
    if '0' ≤ c ∧ c ≤ '9' then some (c.toNat - '0'.toNat)
    else if 'a' ≤ c ∧ c ≤ 'f' then some (c.toNat - 'a'.toNat + 10)
    else if 'A' ≤ c ∧ c ≤ 'F' then some (c.toNat - 'A'.toNat + 10)
    else none
  d.filter (· < base)

/-- The value of digits. -/
def ofDigits (base : Nat) (ds : List Nat) : Nat :=
  ds.foldl (fun n d => base * n + d) 0

/-- The character whose code point is written in the given number of hexadecimal digits. -/
def codePoint (width : Nat) (cs : List Char) : Option (Char × List Char) := do
  let ds ← (cs.take width).mapM (digit? 16)
  let n := ofDigits 16 ds
  if ds.length = width ∧ n.isValidChar then return (Char.ofNat n, cs.drop width) else none

/-- The character that an escape stands for, after its backslash. -/
def escape : Scanner Char
  | 'b' :: cs => some ('\x08', cs)
  | 't' :: cs => some ('\t', cs)
  | 'n' :: cs => some ('\n', cs)
  | 'f' :: cs => some ('\x0c', cs)
  | 'r' :: cs => some ('\r', cs)
  | '"' :: cs => some ('"', cs)
  | '\\' :: cs => some ('\\', cs)
  | 'u' :: cs => codePoint 4 cs
  | 'U' :: cs => codePoint 8 cs
  | _ => none

/-! ### Strings -/

/-- The inside of a string between double quotes on one line. -/
def basicBody : Nat → Scanner (List Char)
  | 0, _ => none
  | fuel + 1, cs =>
    match cs with
    | [] => none
    | '"' :: cs => some ([], cs)
    | '\\' :: cs => do
      let (c, cs) ← escape cs
      let (rest, cs) ← basicBody fuel cs
      return (c :: rest, cs)
    | c :: cs =>
      if isText c then do
        let (rest, cs) ← basicBody fuel cs
        return (c :: rest, cs)
      else none

/-- The inside of a string between single quotes on one line. -/
def literalBody : Scanner (List Char)
  | [] => none
  | '\'' :: cs => some ([], cs)
  | c :: cs => if isText c then (literalBody cs).map fun r => (c :: r.1, r.2) else none

/-- The number of quotes at the front of a text. -/
def countQuotes (quote : Char) (cs : List Char) : Nat :=
  (cs.takeWhile (· = quote)).length

/-- The quotes that end a string of several lines: of a run of three to five the last three. -/
def closing (quote : Char) : Scanner (List Char) := fun cs =>
  let n := min (countQuotes quote cs) 5
  if 3 ≤ n then some (List.replicate (n - 3) quote, cs.drop n) else none

/-- The inside of a string of several lines between double quotes.  A backslash at the end of a line
takes the blanks and line ends after it away. -/
def longBasicBody : Nat → Scanner (List Char)
  | 0, _ => none
  | fuel + 1, cs =>
    match closing '"' cs with
    | some r => some r
    | none =>
      match cs with
      | [] => none
      | '\\' :: cs =>
        match newline (skipBlanks cs) with
        | some cs => longBasicBody fuel (skipLines cs)
        | none => do
          let (c, cs) ← escape cs
          let (rest, cs) ← longBasicBody fuel cs
          return (c :: rest, cs)
      | c :: rest =>
        match newline cs with
        | some cs => (longBasicBody fuel cs).map fun r => ('\n' :: r.1, r.2)
        | none =>
          if isText c then (longBasicBody fuel rest).map fun r => (c :: r.1, r.2) else none

/-- The inside of a string of several lines between single quotes. -/
def longLiteralBody : Nat → Scanner (List Char)
  | 0, _ => none
  | fuel + 1, cs =>
    match closing '\'' cs with
    | some r => some r
    | none =>
      match cs with
      | [] => none
      | c :: rest =>
        match newline cs with
        | some cs => (longLiteralBody fuel cs).map fun r => ('\n' :: r.1, r.2)
        | none =>
          if isText c then (longLiteralBody fuel rest).map fun r => (c :: r.1, r.2) else none

/-- A text without the line end at its front. -/
def dropNewline (cs : List Char) : List Char :=
  (newline cs).getD cs

/-- Makes a scanner of characters one of strings. -/
def asString (scan : Scanner (List Char)) : Scanner String := fun cs =>
  (scan cs).map fun r => (String.ofList r.1, r.2)

/-- A string on one line. -/
def shortString : Scanner String
  | '"' :: cs => asString (basicBody (cs.length + 1)) cs
  | '\'' :: cs => asString literalBody cs
  | _ => none

/-- A string of any kind. -/
def string : Scanner String
  | '"' :: '"' :: '"' :: cs =>
    let cs := dropNewline cs
    asString (longBasicBody (cs.length + 1)) cs
  | '\'' :: '\'' :: '\'' :: cs =>
    let cs := dropNewline cs
    asString (longLiteralBody (cs.length + 1)) cs
  | cs => shortString cs

/-! ### Keys -/

/-- The characters of a key without quotes. -/
def isBareKey (c : Char) : Bool :=
  ('a' ≤ c && c ≤ 'z') || ('A' ≤ c && c ≤ 'Z') || ('0' ≤ c && c ≤ '9') || c = '_' || c = '-'

/-- One part of a key. -/
def simpleKey : Scanner String
  | '"' :: cs => shortString ('"' :: cs)
  | '\'' :: cs => shortString ('\'' :: cs)
  | cs =>
    match cs.takeWhile isBareKey with
    | [] => none
    | k => some (String.ofList k, cs.dropWhile isBareKey)

/-- The parts of a key that dots separate. -/
def keyParts : Nat → Scanner (List String)
  | 0, _ => none
  | fuel + 1, cs => do
    let (k, cs) ← simpleKey (skipBlanks cs)
    match skipBlanks cs with
    | '.' :: cs => do
      let (ks, cs) ← keyParts fuel cs
      return (k :: ks, cs)
    | cs => return ([k], cs)

/-- How many tables may lie inside one another. -/
def maxNesting : Nat := 79

/-- A key of one or more parts. -/
def key : Scanner (List String) :=
  keyParts maxNesting

end Scan

end Tidemark.Toml
