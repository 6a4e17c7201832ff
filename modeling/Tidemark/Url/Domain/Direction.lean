import Tidemark.Text.Mark

/-!
# The direction of a domain name

If one label of a name is written from right to left, every label of it must keep its characters
together when it is shown: it begins with a letter, goes on in the direction of that letter, and
ends with a letter of that direction or a digit.
-/

namespace Tidemark.Url.Domain

open Tidemark.Text (CharSet)

/-- How a character behaves in a line that runs in both directions. -/
inductive Direction where
  | leftToRight
  | rightToLeft
  /-- A digit that is written from left to right in any line. -/
  | digit
  /-- A digit, or a sign of numbers, of lines from right to left. -/
  | arabicNumber
  | neutral
  /-- A mark goes with the character before it. -/
  | mark
  deriving DecidableEq, Repr

namespace Direction

/-- The characters of scripts that run from right to left. -/
def rightToLeftChars : CharSet := CharSet.read "
  5BE-5F4 608 60B 60D 61B-64A 66D-6D5 6E5-6E6 6EE-6EF 6FA-7F5 7FA-8C9 FBB2-FBC2 FE73 10800-1091B
  10920-10B35 10B40-10D23 10D4A-10D4F 10D6F-10D8F 10E80-10EC7 10F00-10FF6 1E800-1ED3D"

/-- The numbers of lines from right to left. -/
def arabicNumbers : CharSet := CharSet.read "660-669 66B-66C 10D30-10D49 10E60-10E7E"

/-- The digits beyond ASCII of lines in any direction. -/
def digits : CharSet := CharSet.read "6F0-6F9 102E1-102FB"

/-- Punctuation and symbols. -/
def neutrals : CharSet := CharSet.read "
  A1-D7 F7 2B9-2BA 2C2-2CF 2D2-2ED 2EF-2FF 375 3F6 58A-58F 606-607 609-60A 60C 60E-60F 66A 6DE
  6E9 7F6-7F9 9F2-9F3 9FB AF1 BF3-BFA C78-C7E E3F F3A-F3D 1390-1399 1400 169B-169C 17DB 17F0-180A
  1940-1945 19DE-19FF 200C-214D 218A-2335 237B-2394 2396-26AB 26AD-27FF 2900-2BFF 2CE5-2CEA
  2CF9-2CFF 2E00-3004 3008-3020 3030 3037 303D-303F 30A0 30FB 31C0-31E5 4DC0-4DFF A490-A4C6
  A60D-A60F A673-A67F A700-A721 A788 A828-A82B A838-A839 A874-A877 AB6A-AB6B FBC3-FE46 10101
  10140-1018C 10190-101A0 1091F 10B39-10B3F 10D6E 10ED0-10ED8 11052-11065 11660-1166C 11FD5-11FF1
  16FE2 1CC00-1CEF0 1D1E9-1D245 1D300-1D356 1E2FF 1EEF0-1F12F 1F16D-1F16F 1F1AD 1F260-1FBFA"

/-- Nonspacing marks that behave like letters. -/
def letterMarks : CharSet := CharSet.read "CBF CC6 11A07-11A08 11C3F"

/-- The direction of a character that a domain name may hold. -/
def ofChar (c : Char) : Direction :=
  if c.toNat < 0x80 then
    if 'a' ≤ c ∧ c ≤ 'z' then .leftToRight
    else if '0' ≤ c ∧ c ≤ '9' then .digit
    else .neutral
  else if Text.isNonspacing c then if letterMarks.has c then .leftToRight else .mark
  else if rightToLeftChars.has c then .rightToLeft
  else if arabicNumbers.has c then .arabicNumber
  else if digits.has c then .digit
  else if neutrals.has c then .neutral
  else .leftToRight

/-- Whether a character of a direction makes its name one that runs from right to left. -/
def turnsName (d : Direction) : Bool :=
  d = rightToLeft || d = arabicNumber

/-- Whether a label that begins with one direction may hold another. -/
def admits (first d : Direction) : Bool :=
  match first with
  | leftToRight => d = leftToRight || d = digit || d = neutral || d = mark
  | rightToLeft => d ≠ leftToRight
  | _ => false

/-- Whether a label that begins with one direction may end with another. -/
def endsWell (first d : Direction) : Bool :=
  match first with
  | leftToRight => d = leftToRight || d = digit
  | rightToLeft => d = rightToLeft || d = digit || d = arabicNumber
  | _ => false

end Direction

/-- Whether the characters of a label keep together: it ends well before the marks at its end, and
two kinds of digits do not meet in it. -/
def keepsTogether (label : List Char) : Bool :=
  match label.map Direction.ofChar with
  | [] => true
  | first :: ds =>
    let ds := (ds.reverse.dropWhile (· = .mark)).reverse
    (first = .leftToRight || first = .rightToLeft) && ds.all first.admits
      && ds.getLast?.all first.endsWell
      && !(first = .rightToLeft && ds.contains .digit && ds.contains .arabicNumber)

/-- Whether a label runs from right to left. -/
def turns (label : List Char) : Bool :=
  label.any fun c => (Direction.ofChar c).turnsName

end Tidemark.Url.Domain
