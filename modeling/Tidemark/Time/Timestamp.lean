import Tidemark.Text.Blank
import Tidemark.Time.Instant

/-!
# Reading timestamps

A timestamp is a date, a separator, a time of day and an offset from UTC.  Reading is lenient:
blanks may stand around numbers, the separator may be a blank or a letter of either case, the
fraction may have any number of digits of which nine count, and a year with a sign may have any
number of digits.  Fields are judged one after another as they are read; whether the date exists is
judged at the end.
-/

namespace Tidemark.Time

/-- Why a text is no timestamp. -/
inductive TimestampFault where
  | tooShort
  | invalid
  | outOfRange
  | tooLong
  /-- The local time exists, but the instant lies outside the calendar. -/
  | impossible
  deriving DecidableEq, Repr

namespace TimestampFault

/-- The wording of a fault. -/
def message : TimestampFault → String
  | .tooShort => "premature end of input"
  | .invalid => "input contains invalid characters"
  | .outOfRange => "input is out of range"
  | .tooLong => "trailing input"
  | .impossible => "no possible date and time matching input"

end TimestampFault

namespace Timestamp

/-- The value of a decimal digit. -/
def digit? (c : Char) : Option Nat :=
  if '0' ≤ c ∧ c ≤ '9' then some (c.toNat - '0'.toNat) else none

/-- Reads digits, at most as many as given, onto an accumulated value. -/
def digits : Nat → Nat → List Char → Nat × List Char
  | 0, n, cs => (n, cs)
  | _, n, [] => (n, [])
  | width + 1, n, c :: cs =>
    match digit? c with
    | some d => digits width (10 * n + d) cs
    | none => (n, c :: cs)

/-- Reads a number of at least one digit and at most as many as given. -/
def number (width : Nat) : List Char → Except TimestampFault (Nat × List Char)
  | [] => .error .tooShort
  | c :: cs => if (digit? c).isSome then .ok (digits width 0 (c :: cs)) else .error .invalid

/-- Reads a number that must lie within bounds. -/
def numberWithin (low high : Nat) (cs : List Char) : Except TimestampFault (Nat × List Char) := do
  let (n, cs) ← number 2 (Text.trimStart cs)
  if low ≤ n ∧ n ≤ high then return (n, cs) else throw .outOfRange

/-- Reads a fixed character. -/
def expect (x : Char) : List Char → Except TimestampFault (List Char)
  | [] => .error .tooShort
  | c :: cs => if c = x then .ok cs else .error .invalid

/-- Reads a year: four digits at most, or any number of digits after a sign. -/
def year (cs : List Char) : Except TimestampFault (Int × List Char) :=
  match Text.trimStart cs with
  | '-' :: cs => do
    let (n, cs) ← number cs.length cs
    if n ≤ 0x80000000 then return (-(n : Int), cs) else throw .outOfRange
  | '+' :: cs => do
    let (n, cs) ← number cs.length cs
    if n < 0x80000000 then return ((n : Int), cs) else throw .outOfRange
  | cs => do
    let (n, cs) ← number 4 cs
    return ((n : Int), cs)

/-- Reads the character between date and time. -/
def separator : List Char → Except TimestampFault (List Char)
  | [] => .error .tooShort
  | c :: cs => if c = 'T' ∨ c = 't' ∨ c = ' ' then .ok cs else .error .invalid

/-- Reads a fraction of a second in nanoseconds; digits after the ninth are passed over. -/
def fraction : List Char → Except TimestampFault (Nat × List Char)
  | '.' :: cs => do
    let (n, rest) ← number 9 cs
    let width := cs.length - rest.length
    return (n * Nat.pow 10 (9 - width), rest.dropWhile fun c => (digit? c).isSome)
  | cs => .ok (0, cs)

/-- Reads two digits. -/
def twoDigits : List Char → Except TimestampFault (Nat × List Char)
  | [] => .error .tooShort
  | [c] => if c.toNat < 0x80 then .error .tooShort else .error .invalid
  | c :: d :: cs =>
    match digit? c, digit? d with
    | some a, some b => .ok (10 * a + b, cs)
    | _, _ => .error .invalid

/-- Reads an offset from UTC in minutes: `Z`, `UTC`, or a sign, hours and minutes. -/
def offset (cs : List Char) : Except TimestampFault (Int × List Char) :=
  match cs with
  | [] => .error .tooShort
  | c :: rest =>
    if c = 'Z' ∨ c = 'z' then .ok (0, rest)
    else if (cs.take 3).map Char.toUpper = ['U', 'T', 'C'] then .ok (0, cs.drop 3)
    else if c = '+' ∨ c = '-' ∨ c = '\u2212' then do
      let (hours, rest) ← twoDigits rest
      let (minutes, rest) ← twoDigits (rest.dropWhile fun c => c = ':' || Text.isBlank c)
      if 60 ≤ minutes then throw .outOfRange
      let total : Int := 60 * hours + minutes
      return (if c = '+' then total else -total, rest)
    else .error .invalid

/-- The instant of a local date and time, if the date exists and the offset is less than a day. -/
def resolve (t : Instant) (offset : Int) : Except TimestampFault Instant :=
  if ¬ t.Valid ∨ 1440 ≤ offset.natAbs then .error .outOfRange
  else
    let u := t.ofLocal offset
    if u.Valid then .ok u else .error .impossible

/-- Reads the characters of a timestamp. -/
def readChars (cs : List Char) : Except TimestampFault Instant := do
  let (year, cs) ← year cs
  let cs ← expect '-' (Text.trimStart cs)
  let (month, cs) ← numberWithin 1 12 cs
  let cs ← expect '-' (Text.trimStart cs)
  let (day, cs) ← numberWithin 1 31 cs
  let cs ← separator cs
  let (hour, cs) ← numberWithin 0 23 cs
  let cs ← expect ':' (Text.trimStart cs)
  let (minute, cs) ← numberWithin 0 59 cs
  let cs ← expect ':' (Text.trimStart cs)
  let (second, cs) ← numberWithin 0 60 cs
  let (nanosecond, cs) ← fraction cs
  let (offset, cs) ← offset (Text.trimStart cs)
  if Text.trimStart cs ≠ [] then throw .tooLong
  resolve ⟨year, month, day, hour, minute, second, nanosecond⟩ offset

/-- Reads a timestamp. -/
def read (s : String) : Except TimestampFault Instant :=
  readChars s.toList

end Timestamp

end Tidemark.Time
