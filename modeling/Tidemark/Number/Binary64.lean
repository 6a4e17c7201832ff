/-!
# Double precision numbers

A finite double precision number is a sign and a magnitude `m * 2 ^ e`.  The arithmetic here is
exact: a result is a ratio of natural numbers, and `Magnitude.ofRatio` rounds the ratio to the
nearest magnitude, a tie going to the even mantissa.
-/

namespace Tidemark.Number

/-- A magnitude `mantissa * 2 ^ exponent`. -/
structure Magnitude where
  mantissa : Nat
  exponent : Int
  deriving DecidableEq, Repr

/-- A finite double precision number. -/
structure Binary64 where
  negative : Bool
  magnitude : Magnitude
  deriving DecidableEq, Repr

namespace Magnitude

/-- The least exponent of a magnitude. -/
def minExponent : Int := -1074

/-- The greatest exponent of a magnitude. -/
def maxExponent : Int := 971

/-- The least mantissa of 53 binary digits, `2 ^ 52`. -/
def leastFull : Nat := 0x10000000000000

/-- The magnitude zero. -/
def zero : Magnitude := ⟨0, minExponent⟩

/-- The ratio `n * 2 ^ e / d`, as numerator and denominator. -/
def scaleRatio (n d : Nat) (e : Int) : Nat × Nat :=
  if 0 ≤ e then (n * Nat.pow 2 e.toNat, d) else (n, d * Nat.pow 2 (-e).toNat)

/-- The quotient of two natural numbers, rounded to the nearest, a tie to the even one. -/
def roundDiv (n d : Nat) : Nat :=
  let q := n / d
  let r := n % d
  if d < 2 * r ∨ (d = 2 * r ∧ q % 2 = 1) then q + 1 else q

/-- The exponent at which a positive ratio has a quotient of 53 binary digits, or the least
exponent. -/
def ratioExponent (n d : Nat) : Int :=
  let e : Int := (Nat.log2 n : Int) - (Nat.log2 d : Int) - 53
  let s := scaleRatio n d (-e)
  let e := if 2 * leastFull ≤ s.1 / s.2 then e + 1 else e
  max e minExponent

/-- The magnitude nearest to the ratio `n / d`; none when that is beyond the greatest. -/
def ofRatio (n d : Nat) : Option Magnitude :=
  if n = 0 then some zero
  else
    let e := ratioExponent n d
    let s := scaleRatio n d (-e)
    let m := roundDiv s.1 s.2
    let x : Magnitude := if m = 2 * leastFull then ⟨leastFull, e + 1⟩ else ⟨m, e⟩
    if maxExponent < x.exponent then none else some x

/-- The exact value as a ratio. -/
def ratio (x : Magnitude) : Nat × Nat :=
  scaleRatio x.mantissa 1 x.exponent

/-- The rounded product. -/
def mul (x y : Magnitude) : Option Magnitude :=
  ofRatio (x.ratio.1 * y.ratio.1) (x.ratio.2 * y.ratio.2)

/-- The rounded quotient. -/
def div (x y : Magnitude) : Option Magnitude :=
  ofRatio (x.ratio.1 * y.ratio.2) (x.ratio.2 * y.ratio.1)

/-- The magnitude nearest to a natural number. -/
def ofNat (n : Nat) : Option Magnitude :=
  ofRatio n 1

/-- The number of decimal places by which a significand can move a power of ten. -/
def placesOf (n : Nat) : Int :=
  (Nat.toDigits 10 n).length

/-- The magnitude nearest to `significand * 10 ^ exponent`, rounded once.  Powers of ten far beyond
the range are decided without being computed. -/
def ofDecimal (significand : Nat) (exponent : Int) : Option Magnitude :=
  if significand = 0 then some zero
  else if 400 ≤ exponent then none
  else if exponent + placesOf significand ≤ -400 then some zero
  else if 0 ≤ exponent then ofRatio (significand * Nat.pow 10 exponent.toNat) 1
  else ofRatio significand (Nat.pow 10 (-exponent).toNat)

/-- The greatest power of ten that is a magnitude. -/
def maxTen : Nat := 308

/-- Divides by a power of ten in rounded steps, each by the greatest power or less. -/
def divTens : Nat → Magnitude → Nat → Option Magnitude
  | 0, _, _ => some zero
  | fuel + 1, x, k =>
    if x.mantissa = 0 then some x
    else if k ≤ maxTen then (ofNat (Nat.pow 10 k)).bind x.div
    else
      (ofNat (Nat.pow 10 maxTen)).bind fun t =>
        (x.div t).bind fun y => divTens fuel y (k - maxTen)

/-- The magnitude of a significand below `2 ^ 64` and a power of ten, both rounded before their
product or quotient is rounded.  Two divisions by the greatest power take every significand to
zero, so three steps are enough. -/
def ofScaled (significand : Nat) (exponent : Int) : Option Magnitude :=
  (ofNat significand).bind fun x =>
    if x.mantissa = 0 then some x
    else if exponent < 0 then divTens 3 x (-exponent).toNat
    else if exponent.toNat ≤ maxTen then (ofNat (Nat.pow 10 exponent.toNat)).bind x.mul
    else none

end Magnitude

end Tidemark.Number
