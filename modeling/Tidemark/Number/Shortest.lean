import Tidemark.Number.Binary64

/-!
# Shortest decimal text

A magnitude is written with the fewest decimal digits that read back as the same magnitude, and
among those with the digits nearest to it.  The numbers that read back form an interval around the
magnitude; for 1, 2, … 17 digits its two neighbours on the grid of that many digits are tried, and
the first grid with a neighbour in the interval gives the digits.
-/

namespace Tidemark.Number

/-- A positive decimal number `significand * 10 ^ exponent`. -/
structure Decimal where
  significand : Nat
  exponent : Int
  deriving DecidableEq, Repr

/-- Which numbers are written without an exponent: those whose leading digit stands for a power of
ten of at least `positionalFrom` and below `positionalBelow`. -/
structure Layout where
  positionalFrom : Int
  positionalBelow : Int

namespace Shortest

/-- The interval of numbers that read back as a magnitude, its bounds as ratios over one
denominator.  The bounds belong to it when the mantissa is even. -/
structure Interval where
  low : Nat
  value : Nat
  high : Nat
  denominator : Nat
  closed : Bool

/-- The interval of a positive magnitude: half the distance to either neighbour.  The neighbour
below a power of two is only half as far away. -/
def interval (x : Magnitude) : Interval :=
  let nearBelow : Bool :=
    x.mantissa = Magnitude.leastFull ∧ Magnitude.minExponent < x.exponent
  let below := if nearBelow then 1 else 2
  let s := fun n => Magnitude.scaleRatio n 4 x.exponent
  { low := (s (4 * x.mantissa - below)).1
    value := (s (4 * x.mantissa)).1
    high := (s (4 * x.mantissa + 2)).1
    denominator := (s (4 * x.mantissa)).2
    closed := x.mantissa % 2 = 0 }

/-- The number of decimal digits of a natural number. -/
def digitCount (n : Nat) : Nat :=
  (Nat.toDigits 10 n).length

/-- The power of ten of the leading digit of the ratio `n / d`. -/
def leadingExponent (n d : Nat) : Int :=
  if d ≤ n then (digitCount (n / d) : Int) - 1
  else -(digitCount ((d + n - 1) / n - 1) : Int)

/-- The ratio `n / d` over `10 ^ e`, as numerator and denominator. -/
def overTen (n d : Nat) (e : Int) : Nat × Nat :=
  if 0 ≤ e then (n, d * Nat.pow 10 e.toNat) else (n * Nat.pow 10 (-e).toNat, d)

/-- Whether `g * 10 ^ e` lies in the interval. -/
def Interval.holds (i : Interval) (g : Nat) (e : Int) : Bool :=
  let low := overTen i.low i.denominator e
  let high := overTen i.high i.denominator e
  if i.closed then low.1 ≤ g * low.2 && g * high.2 ≤ high.1
  else low.1 < g * low.2 && g * high.2 < high.1

/-- The grid point that reads back, of the two neighbours on the grid of multiples of `10 ^ e`; the
nearer one if both do, and the even one of two equally near. -/
def onGrid (i : Interval) (e : Int) : Option Nat :=
  let v := overTen i.value i.denominator e
  let below := v.1 / v.2
  let above := below + 1
  match i.holds below e && below != 0, i.holds above e with
  | true, true =>
    let r := v.1 % v.2
    if 2 * r < v.2 ∨ (2 * r = v.2 ∧ below % 2 = 0) then some below else some above
  | true, false => some below
  | false, true => some above
  | false, false => none

/-- Tries grids of more and more digits. -/
def search (i : Interval) (lead : Int) : Nat → Nat → Decimal
  | 0, _ => ⟨0, 0⟩
  | tries + 1, digits =>
    let e := lead - (digits : Int) + 1
    match onGrid i e with
    | some g => ⟨g, e⟩
    | none => search i lead tries (digits + 1)

/-- The shortest decimal number that reads back as a positive magnitude. -/
def decimal (x : Magnitude) : Decimal :=
  let i := interval x
  search i (leadingExponent i.value i.denominator) 17 1

end Shortest

/-- The digits of a number without the zeros at its end. -/
def significantDigits (n : Nat) : List Char :=
  ((Nat.toDigits 10 n).reverse.dropWhile (· = '0')).reverse

/-- Writes digits without an exponent, the leading one standing for `10 ^ lead`. -/
def positional (ds : List Char) (lead : Int) : List Char :=
  if lead < 0 then
    ['0', '.'] ++ List.replicate ((-lead).toNat - 1) '0' ++ ds
  else
    let whole := lead.toNat + 1
    if ds.length ≤ whole then ds ++ List.replicate (whole - ds.length) '0' ++ ['.', '0']
    else ds.take whole ++ '.' :: ds.drop whole

/-- Writes digits with a signed exponent, the leading one standing for `10 ^ lead`. -/
def scientific (ds : List Char) (lead : Int) : List Char :=
  let mantissa := match ds with
    | [] => []
    | [d] => [d]
    | d :: rest => d :: '.' :: rest
  mantissa ++ ['e', if lead < 0 then '-' else '+'] ++ Nat.toDigits 10 lead.natAbs

namespace Magnitude

/-- The shortest text of a magnitude. -/
def render (layout : Layout) (x : Magnitude) : List Char :=
  if x.mantissa = 0 then ['0', '.', '0']
  else
    let d := Shortest.decimal x
    let lead := d.exponent + (Shortest.digitCount d.significand : Int) - 1
    let ds := significantDigits d.significand
    if layout.positionalFrom ≤ lead ∧ lead < layout.positionalBelow then positional ds lead
    else scientific ds lead

end Magnitude

namespace Binary64

/-- The shortest text of a number, zero keeping its sign. -/
def render (layout : Layout) (x : Binary64) : String :=
  String.ofList (if x.negative then '-' :: x.magnitude.render layout else x.magnitude.render layout)

end Binary64

end Tidemark.Number
