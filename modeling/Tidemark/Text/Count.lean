import Tidemark.Text.Blank

/-!
# Counts written in decimal

Row counts, row limits and points in time are counts below `2^64`, written in decimal.  A written
count may carry one leading `+` and any number of leading zeros.  `Count.read` scans the digits
from the left and reports the first thing that goes wrong: a character that is no digit, or a digit
that takes the value out of range.
-/

namespace Tidemark.Text

/-- Why a text is not a count. -/
inductive CountFault where
  | empty
  | invalidDigit
  | tooLarge
  deriving DecidableEq, Repr

namespace CountFault

/-- The wording of a fault. -/
def message : CountFault → String
  | .empty => "cannot parse integer from empty string"
  | .invalidDigit => "invalid digit found in string"
  | .tooLarge => "number too large to fit in target type"

end CountFault

namespace Count

/-- The first number that is no longer a count. -/
def bound : Nat := 0x10000000000000000

/-- The value of a decimal digit. -/
def digit? (c : Char) : Option Nat :=
  if '0' ≤ c ∧ c ≤ '9' then some (c.toNat - '0'.toNat) else none

/-- Reads digits from the left onto an accumulated value.  A character that is no digit is
reported before the range of the value so far, and the range before any later character. -/
def readDigits : Nat → List Char → Except CountFault Nat
  | n, [] => .ok n
  | n, c :: cs =>
    match digit? c with
    | none => .error .invalidDigit
    | some d => if 10 * n + d < bound then readDigits (10 * n + d) cs else .error .tooLarge

/-- Reads a whole text as a count: an optional `+`, then at least one digit. -/
def readChars : List Char → Except CountFault Nat
  | [] => .error .empty
  | ['+'] => .error .invalidDigit
  | '+' :: cs => readDigits 0 cs
  | cs => readDigits 0 cs

/-- Reads a text as a count. -/
def read (s : String) : Except CountFault UInt64 :=
  (readChars s.toList).map UInt64.ofNat

/-- Reads a text as a count after trimming blanks. -/
def readTrimmed (s : String) : Except CountFault UInt64 :=
  (readChars (trim s.toList)).map UInt64.ofNat

/-- The digits of a number in decimal, without leading zeros. -/
def digits (n : Nat) : List Char :=
  Nat.toDigits 10 n

/-- A count in decimal. -/
def render (n : UInt64) : String :=
  String.ofList (digits n.toNat)

/-! ### The value that was read -/

end Count

end Tidemark.Text
