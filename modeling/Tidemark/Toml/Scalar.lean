import Tidemark.Time.Instant
import Tidemark.Toml.Scan
import Tidemark.Toml.Value

/-!
# Numbers, dates and times of TOML

Integers are written in four bases and must fit 64 bits; between two digits there may be an
underscore.  Dates and times must exist.
-/

namespace Tidemark.Toml.Scan

/-! ### Numbers -/

/-- The digits at the front of a text; an underscore between two of them is passed over. -/
def digitRun (base : Nat) : List Char → List Nat × List Char
  | [] => ([], [])
  | '_' :: cs => ([], '_' :: cs)
  | c :: '_' :: d :: cs =>
    match digit? base c, digit? base d with
    | some n, some _ => let r := digitRun base (d :: cs); (n :: r.1, r.2)
    | some n, none => ([n], '_' :: d :: cs)
    | none, _ => ([], c :: '_' :: d :: cs)
  | c :: cs =>
    match digit? base c with
    | some n => let r := digitRun base cs; (n :: r.1, r.2)
    | none => ([], c :: cs)

/-- At least one digit. -/
def someDigits (base : Nat) : Scanner (List Nat) := fun cs =>
  match digitRun base cs with
  | ([], _) => none
  | r => some r

/-- An integer that fits 64 bits. -/
def fitting (n : Int) : Option Value :=
  if -0x8000000000000000 ≤ n ∧ n < 0x8000000000000000 then some (.integer n) else none

/-- An integer in another base than ten, after the letter of the base. -/
def basedInteger (base : Nat) : Scanner Value := fun cs => do
  let (ds, cs) ← someDigits base cs
  return (← fitting (ofDigits base ds), cs)

/-- The whole part of a number: a single zero, or digits that do not start with one. -/
def wholePart : Scanner (List Nat)
  | '0' :: cs => some ([0], cs)
  | cs => someDigits 10 cs

/-- The fraction of a number, if there is one. -/
def fractionPart : Scanner (Option (List Nat))
  | '.' :: cs => (someDigits 10 cs).map fun r => (some r.1, r.2)
  | cs => some (none, cs)

/-- A sign, and whether it is a minus. -/
def sign : List Char → Bool × List Char
  | '-' :: cs => (true, cs)
  | '+' :: cs => (false, cs)
  | cs => (false, cs)

/-- The exponent of a number, if there is one. -/
def exponentPart : Scanner (Option Int)
  | [] => some (none, [])
  | e :: cs =>
    if e = 'e' ∨ e = 'E' then do
      let (negative, cs) := sign cs
      let (ds, cs) ← someDigits 10 cs
      let n : Int := ofDigits 10 ds
      return (some (if negative then -n else n), cs)
    else some (none, e :: cs)

/-- The float with the given digits.  One beyond the range is refused, unless it is negative. -/
def decimalReal (negative : Bool) (whole fraction : List Nat) (exponent : Int) : Option Real :=
  let significand := ofDigits 10 (whole ++ fraction)
  match Number.Magnitude.ofDecimal significand (exponent - fraction.length) with
  | some m => some (.finite ⟨negative, m⟩)
  | none => if negative then some (.infinite true) else none

/-- The number that its parts stand for. -/
def decimalValue (negative : Bool) (whole : List Nat) (fraction : Option (List Nat))
    (exponent : Option Int) : Option Value :=
  match fraction, exponent with
  | none, none =>
    let n : Int := ofDigits 10 whole
    fitting (if negative then -n else n)
  | fraction, exponent =>
    (decimalReal negative whole (fraction.getD []) (exponent.getD 0)).map .real

/-- A number in base ten without its sign. -/
def decimal (negative : Bool) : Scanner Value := fun cs => do
  let (whole, cs) ← wholePart cs
  let (fraction, cs) ← fractionPart cs
  let (exponent, cs) ← exponentPart cs
  return (← decimalValue negative whole fraction exponent, cs)

/-- A number without its sign, or a word for a float that is no number. -/
def unsigned (negative : Bool) : Scanner Value
  | 'i' :: cs => (word ['n', 'f'] cs).map fun cs => (.real (.infinite negative), cs)
  | 'n' :: cs => (word ['a', 'n'] cs).map fun cs => (.real .nan, cs)
  | cs => decimal negative cs

/-- A number. -/
def number : Scanner Value
  | '0' :: 'x' :: cs => basedInteger 16 cs
  | '0' :: 'o' :: cs => basedInteger 8 cs
  | '0' :: 'b' :: cs => basedInteger 2 cs
  | cs => let s := sign cs; unsigned s.1 s.2

/-! ### Dates and times -/

/-- A number of exactly so many digits. -/
def fixedNumber (width : Nat) : Scanner Nat := fun cs => do
  let ds ← (cs.take width).mapM (digit? 10)
  if ds.length = width then return (ofDigits 10 ds, cs.drop width) else none

/-- A number of two digits in a range. -/
def twoDigits (low high : Nat) : Scanner Nat := fun cs => do
  let (n, cs) ← fixedNumber 2 cs
  if low ≤ n ∧ n ≤ high then return (n, cs) else none

/-- The text after a date that exists. -/
def date (cs : List Char) : Option (List Char) := do
  let (year, cs) ← fixedNumber 4 cs
  let cs ← word ['-'] cs
  let (month, cs) ← twoDigits 1 12 cs
  let cs ← word ['-'] cs
  let (_, cs) ← twoDigits 1 (Time.daysInMonth year month) cs
  return cs

/-- The text after the fraction of a second, if there is one. -/
def skipFraction : List Char → List Char
  | '.' :: cs =>
    match digit? 10 (cs.headD '.') with
    | some _ => cs.dropWhile fun c => (digit? 10 c).isSome
    | none => '.' :: cs
  | cs => cs

/-- The text after a time of day. -/
def time (cs : List Char) : Option (List Char) := do
  let (_, cs) ← twoDigits 0 23 cs
  let cs ← word [':'] cs
  let (_, cs) ← twoDigits 0 59 cs
  let cs ← word [':'] cs
  let (_, cs) ← twoDigits 0 60 cs
  return skipFraction cs

/-- The text after an offset from UTC. -/
def offset : List Char → Option (List Char)
  | [] => none
  | c :: cs =>
    if c = 'Z' ∨ c = 'z' then some cs
    else if c = '+' ∨ c = '-' then do
      let (_, cs) ← twoDigits 0 23 cs
      let cs ← word [':'] cs
      let (_, cs) ← twoDigits 0 59 cs
      return cs
    else none

/-- The text after the time that follows a date, if one does. -/
def skipTime : List Char → List Char
  | [] => []
  | c :: cs =>
    if c = 'T' ∨ c = 't' ∨ c = ' ' then
      match time cs with
      | some cs => (offset cs).getD cs
      | none => c :: cs
    else c :: cs

/-- A date, a time or both. -/
def moment : Scanner Value := fun cs =>
  match date cs with
  | some cs => some (.moment, skipTime cs)
  | none => (time cs).map fun cs => (.moment, cs)

/-- A boolean, a number, a date or a time. -/
def scalar : Scanner Value
  | 't' :: cs => (word ['r', 'u', 'e'] cs).map fun cs => (.boolean true, cs)
  | 'f' :: cs => (word ['a', 'l', 's', 'e'] cs).map fun cs => (.boolean false, cs)
  | cs => (moment cs).orElse fun _ => number cs

end Tidemark.Toml.Scan
