import Tidemark.Json.Fault

/-!
# Scanning the parts of a JSON text

Blanks, words, strings and numbers are scanned from the front of a list of characters; what is left
is returned.  A number without fraction and exponent that is a 64-bit integer stays one, every
other number is a double, and `-0` is the double `-0.0`.
-/

namespace Tidemark.Json.Scan

/-- The four characters that may stand between the parts of a text. -/
def isSpace (c : Char) : Bool :=
  c = ' ' || c = '\t' || c = '\n' || c = '\r'

/-- The text from the first character on that is not a blank. -/
def skipSpace (cs : List Char) : List Char :=
  cs.dropWhile isSpace

/-- The text after a word. -/
def expect : List Char → List Char → Except Fault (List Char)
  | [], cs => .ok cs
  | w :: ws, c :: cs => if w = c then expect ws cs else .error .malformed
  | _ :: _, [] => .error .malformed

/-! ### Strings -/

/-- The value of a hexadecimal digit. -/
def hexValue? (c : Char) : Option Nat :=
  if '0' ≤ c ∧ c ≤ '9' then some (c.toNat - '0'.toNat)
  else if 'a' ≤ c ∧ c ≤ 'f' then some (c.toNat - 'a'.toNat + 10)
  else if 'A' ≤ c ∧ c ≤ 'F' then some (c.toNat - 'A'.toNat + 10)
  else none

/-- The value of four hexadecimal digits. -/
def hexWord? (a b c d : Char) : Option Nat := do
  let a ← hexValue? a
  let b ← hexValue? b
  let c ← hexValue? c
  let d ← hexValue? d
  return ((a * 16 + b) * 16 + c) * 16 + d

/-- The character that a one-letter escape stands for. -/
def shortEscape? (c : Char) : Option Char :=
  if c = '"' ∨ c = '\\' ∨ c = '/' then some c
  else if c = 'b' then some '\x08'
  else if c = 'f' then some '\x0c'
  else if c = 'n' then some '\n'
  else if c = 'r' then some '\r'
  else if c = 't' then some '\t'
  else none

/-- The upper half of a pair of 16-bit units. -/
def isHighUnit (n : Nat) : Bool := 0xD800 ≤ n && n < 0xDC00

/-- The lower half of a pair of 16-bit units. -/
def isLowUnit (n : Nat) : Bool := 0xDC00 ≤ n && n < 0xE000

/-- A 16-bit unit read from a `\u` escape: alone, or the first of a pair. -/
inductive Unit16 where
  | single (c : Char)
  | high (n : Nat)

/-- Classifies a unit; a lower half alone is refused. -/
def Unit16.ofNat? (n : Nat) : Option Unit16 :=
  if isHighUnit n then some (.high n)
  else if isLowUnit n then none
  else some (.single (Char.ofNat n))

/-- The character of a pair of units. -/
def pairChar? (high low : Nat) : Option Char :=
  if isLowUnit low then some (Char.ofNat (0x10000 + (high - 0xD800) * 0x400 + (low - 0xDC00)))
  else none

/-- Reads the inside of a string and the closing quotation mark. -/
def stringBody : List Char → Except Fault (List Char × List Char)
  | [] => .error .malformed
  | '"' :: cs => .ok ([], cs)
  | '\\' :: 'u' :: a :: b :: c :: d :: cs =>
    match (hexWord? a b c d).bind Unit16.ofNat? with
    | none => .error .malformed
    | some (.single x) => (stringBody cs).map fun r => (x :: r.1, r.2)
    | some (.high n) =>
      match cs with
      | '\\' :: 'u' :: e :: f :: g :: h :: cs =>
        match (hexWord? e f g h).bind (pairChar? n) with
        | none => .error .malformed
        | some x => (stringBody cs).map fun r => (x :: r.1, r.2)
      | _ => .error .malformed
  | '\\' :: c :: cs =>
    match shortEscape? c with
    | none => .error .malformed
    | some x => (stringBody cs).map fun r => (x :: r.1, r.2)
  | c :: cs =>
    if c.toNat < 0x20 ∨ c = '\\' then .error .malformed
    else (stringBody cs).map fun r => (c :: r.1, r.2)

/-- Passes over the inside of a string whose content does not matter: the escapes must be written
properly, but need not stand for characters. -/
def skipStringBody : List Char → Except Fault (List Char)
  | [] => .error .malformed
  | '"' :: cs => .ok cs
  | '\\' :: 'u' :: a :: b :: c :: d :: cs =>
    match hexWord? a b c d with
    | none => .error .malformed
    | some _ => skipStringBody cs
  | '\\' :: c :: cs =>
    match shortEscape? c with
    | none => .error .malformed
    | some _ => skipStringBody cs
  | c :: cs => if c.toNat < 0x20 ∨ c = '\\' then .error .malformed else skipStringBody cs

/-! ### Numbers -/

/-- A number as it is written: the digits of its parts. -/
structure Literal where
  negative : Bool
  whole : List Nat
  fraction : Option (List Nat)
  exponent : Option Int

/-- The value of a decimal digit. -/
def digit? (c : Char) : Option Nat :=
  if '0' ≤ c ∧ c ≤ '9' then some (c.toNat - '0'.toNat) else none

/-- The digits at the front of a text. -/
def digits : List Char → List Nat × List Char
  | [] => ([], [])
  | c :: cs =>
    match digit? c with
    | some d => let r := digits cs; (d :: r.1, r.2)
    | none => ([], c :: cs)

/-- At least one digit. -/
def someDigits (cs : List Char) : Except Fault (List Nat × List Char) :=
  match digits cs with
  | ([], _) => .error .malformed
  | r => .ok r

/-- The whole part of a number: a single zero, or digits that do not start with one. -/
def wholePart (cs : List Char) : Except Fault (List Nat × List Char) :=
  match digits cs with
  | ([], _) => .error .malformed
  | (0 :: _ :: _, _) => .error .malformed
  | r => .ok r

/-- The fraction of a number, if there is one. -/
def fractionPart : List Char → Except Fault (Option (List Nat) × List Char)
  | '.' :: cs => (someDigits cs).map fun r => (some r.1, r.2)
  | cs => .ok (none, cs)

/-- The value of a list of decimal digits. -/
def ofDigits (ds : List Nat) : Nat :=
  ds.foldl (fun n d => 10 * n + d) 0

/-- The exponent of a number, if there is one. -/
def exponentPart : List Char → Except Fault (Option Int × List Char)
  | e :: cs =>
    if e = 'e' ∨ e = 'E' then
      match cs with
      | '-' :: ds => (someDigits ds).map fun r => (some (-(ofDigits r.1 : Int)), r.2)
      | '+' :: ds => (someDigits ds).map fun r => (some (ofDigits r.1 : Int), r.2)
      | ds => (someDigits ds).map fun r => (some (ofDigits r.1 : Int), r.2)
    else .ok (none, e :: cs)
  | [] => .ok (none, [])

/-- A number as it is written. -/
def literal (cs : List Char) : Except Fault (Literal × List Char) := do
  let (negative, cs) := match cs with
    | '-' :: rest => (true, rest)
    | _ => (false, cs)
  let (whole, cs) ← wholePart cs
  let (fraction, cs) ← fractionPart cs
  let (exponent, cs) ← exponentPart cs
  return (⟨negative, whole, fraction, exponent⟩, cs)

/-- The first number that does not fit 64 bits. -/
def wordBound : Nat := 0x10000000000000000

/-- Takes digits onto a significand while it fits 64 bits.  From the first digit on that does
not fit, all are left out; their number is returned too. -/
def absorb : Nat → List Nat → Nat × Nat
  | s, [] => (s, 0)
  | s, d :: ds => if 10 * s + d < wordBound then absorb (10 * s + d) ds else (s, ds.length + 1)

namespace Literal

/-- The double that a literal stands for.  Digits that do not fit the significand count as zeros in
the whole part and are ignored in the fraction.  None if it is out of range. -/
def real? (l : Literal) : Option Number.Binary64 :=
  let (s, leftOut) := absorb 0 l.whole
  let fraction := l.fraction.getD []
  let (s, ignored) := absorb s fraction
  let e : Int := leftOut - (fraction.length - ignored : Nat) + l.exponent.getD 0
  (Number.Magnitude.ofScaled s e).map fun m => ⟨l.negative, m⟩

/-- The number that a literal stands for. -/
def numeral? (l : Literal) : Option Numeral :=
  let n := ofDigits l.whole
  if l.fraction.isNone ∧ l.exponent.isNone ∧ ¬ l.negative ∧ n < wordBound then some (.integer n)
  else if l.fraction.isNone ∧ l.exponent.isNone ∧ l.negative ∧ 0 < n ∧ 2 * n ≤ wordBound then
    some (.integer (-n))
  else l.real?.map .real

end Literal

/-- Reads a number. -/
def numeral (cs : List Char) : Except Fault (Numeral × List Char) := do
  let (l, cs) ← literal cs
  match l.numeral? with
  | some n => return (n, cs)
  | none => throw .malformed

end Tidemark.Json.Scan
