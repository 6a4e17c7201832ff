/-!
# Punycode

A label beyond ASCII is written in ASCII: its ASCII characters first, then the places of the others,
in the order of their code points, as numbers in a base of 36 digits whose ranges adapt to the
numbers before.
-/

namespace Tidemark.Url.Punycode

/-- The digit of a value: letters first, then the decimal digits. -/
def digitChar (d : Nat) : Char :=
  if d < 26 then Char.ofNat ('a'.toNat + d) else Char.ofNat ('0'.toNat + (d - 26))

/-- The value of a digit. -/
def digitValue? (c : Char) : Option Nat :=
  if 'a' ≤ c ∧ c ≤ 'z' then some (c.toNat - 'a'.toNat)
  else if 'A' ≤ c ∧ c ≤ 'Z' then some (c.toNat - 'A'.toNat)
  else if '0' ≤ c ∧ c ≤ '9' then some (c.toNat - '0'.toNat + 26)
  else none

/-- The least value at a position that a further digit follows. -/
def threshold (position bias : Nat) : Nat :=
  min 26 (max 1 (position - bias))

theorem threshold_pos (position bias : Nat) : 1 ≤ threshold position bias := by
  unfold threshold; omega

/-- Divides a number into the range in which the bias is computed. -/
def scaleDown (delta k : Nat) : Nat × Nat :=
  if 455 < delta then scaleDown (delta / 35) (k + 36) else (delta, k)
termination_by delta
decreasing_by omega

/-- The bias after a number, given how many characters have been placed. -/
def adapt (delta placed : Nat) (first : Bool) : Nat :=
  let delta := if first then delta / 700 else delta / 2
  let r := scaleDown (delta + delta / placed) 0
  r.2 + 36 * r.1 / (r.1 + 38)

/-- The digits of a number. -/
def digits (bias position n : Nat) : List Char :=
  let t := threshold position bias
  if n < t then [digitChar n]
  else digitChar (t + (n - t) % (36 - t)) :: digits bias (position + 36) ((n - t) / (36 - t))
termination_by n
decreasing_by
  have h := threshold_pos position bias
  have := Nat.div_le_self (n - threshold position bias) (36 - threshold position bias)
  omega

/-! ### Encoding -/

/-- What has been written, the distance since the last place, the bias, and how many characters have
been placed. -/
structure Progress where
  output : List Char
  delta : Nat
  bias : Nat
  placed : Nat

/-- Goes over one character while the places of a code point are written. -/
def visit (basic code : Nat) (p : Progress) (c : Char) : Progress :=
  if c.toNat < code then { p with delta := p.delta + 1 }
  else if c.toNat = code then
    { output := p.output ++ digits p.bias 36 p.delta
      delta := 0
      bias := adapt p.delta (p.placed + 1) (p.placed = basic)
      placed := p.placed + 1 }
  else p

/-- Writes the places of code points, in order. -/
def place (label : List Char) (basic : Nat) : Nat → List Nat → Progress → Progress
  | _, [], p => p
  | reached, code :: codes, p =>
    let p := { p with delta := p.delta + (code - reached) * (p.placed + 1) }
    let p := label.foldl (visit basic code) p
    place label basic (code + 1) codes { p with delta := p.delta + 1 }

/-- Puts a number in its place in an ascending list, unless it is there. -/
def insertSorted (n : Nat) : List Nat → List Nat
  | [] => [n]
  | m :: ms => if n < m then n :: m :: ms else if n = m then m :: ms else m :: insertSorted n ms

/-- The code points beyond ASCII, ascending, each once. -/
def extended (label : List Char) : List Nat :=
  ((label.map Char.toNat).filter (127 < ·)).foldr insertSorted []

/-- A label in ASCII. -/
def encode (label : List Char) : List Char :=
  let basic := label.filter fun c => c.toNat < 128
  let start := if basic = [] then [] else basic ++ ['-']
  (place label basic.length 128 (extended label) ⟨start, 0, 72, basic.length⟩).output

/-! ### Decoding -/

/-- Reads the digits of one number, given the weight of the next digit. -/
def number? (bias : Nat) : Nat → Nat → Nat → List Char → Option (Nat × List Char)
  | _, _, _, [] => none
  | position, weight, n, c :: cs =>
    match digitValue? c with
    | none => none
    | some d =>
      let t := threshold position bias
      let n := n + d * weight
      if d < t then some (n, cs) else number? bias (position + 36) (weight * (36 - t)) n cs

/-- Puts characters in their places until the text ends, at most the given number. -/
def unplace : Nat → List Char → Nat → Nat → Nat → List Char → Option (List Char)
  | _, [], _, _, _, label => some label
  | 0, _ :: _, _, _, _, _ => none
  | fuel + 1, c :: cs, code, index, bias, label =>
    match number? bias 36 1 0 (c :: cs) with
    | none => none
    | some (delta, rest) =>
      let size := label.length + 1
      let target := index + delta
      let code := code + target / size
      let place := target % size
      if code.isValidChar then
        unplace fuel rest code (place + 1) (adapt delta size (index = 0))
          (label.take place ++ Char.ofNat code :: label.drop place)
      else none

/-- The label that a text in ASCII stands for. -/
def decode (cs : List Char) : Option (List Char) :=
  let rest := cs.reverse.takeWhile (· ≠ '-') |>.reverse
  let basic := (cs.reverse.dropWhile (· ≠ '-')).drop 1 |>.reverse
  unplace rest.length rest 128 0 72 basic

end Tidemark.Url.Punycode
