/-!
# Instants

An instant is a date and a time of day in UTC, with nanoseconds.  The second `60` is kept, so that
a leap second is an instant of its own.
-/

namespace Tidemark.Time

/-- An instant in UTC. -/
structure Instant where
  year : Int
  month : Nat
  day : Nat
  hour : Nat
  minute : Nat
  second : Nat
  nanosecond : Nat
  deriving DecidableEq, Repr

/-! ### The calendar -/

/-- Whether a year has a 29 February. -/
def isLeapYear (year : Int) : Bool :=
  year % 4 = 0 && (year % 100 ≠ 0 || year % 400 = 0)

/-- The number of days of a month. -/
def daysInMonth (year : Int) (month : Nat) : Nat :=
  if month = 2 then if isLeapYear year then 29 else 28
  else if month = 4 ∨ month = 6 ∨ month = 9 ∨ month = 11 then 30
  else 31

/-- The least year of a date. -/
def minYear : Int := -262143

/-- The greatest year of a date. -/
def maxYear : Int := 262142

namespace Instant

/-- The date and the time of day exist. -/
def Valid (t : Instant) : Prop :=
  minYear ≤ t.year ∧ t.year ≤ maxYear ∧ 1 ≤ t.month ∧ t.month ≤ 12 ∧
    1 ≤ t.day ∧ t.day ≤ daysInMonth t.year t.month ∧ t.hour < 24 ∧ t.minute < 60 ∧
    t.second ≤ 60 ∧ t.nanosecond < 1000000000

instance (t : Instant) : Decidable t.Valid := by
  unfold Valid; infer_instance

/-- The same time on the day before. -/
def dayBefore (t : Instant) : Instant :=
  if 1 < t.day then { t with day := t.day - 1 }
  else if 1 < t.month then
    { t with month := t.month - 1, day := daysInMonth t.year (t.month - 1) }
  else { t with year := t.year - 1, month := 12, day := 31 }

/-- The same time on the day after. -/
def dayAfter (t : Instant) : Instant :=
  if t.day < daysInMonth t.year t.month then { t with day := t.day + 1 }
  else if t.month < 12 then { t with month := t.month + 1, day := 1 }
  else { t with year := t.year + 1, month := 1, day := 1 }

/-- The instant of a local time whose clock is ahead of UTC by a number of minutes, less than a day
either way. -/
def ofLocal (t : Instant) (offset : Int) : Instant :=
  let total : Int := 60 * t.hour + t.minute - offset
  let clock := fun (m : Int) => { t with hour := (m / 60).toNat, minute := (m % 60).toNat }
  if total < 0 then (clock (total + 1440)).dayBefore
  else if 1440 ≤ total then (clock (total - 1440)).dayAfter
  else clock total

/-- The instant a number of seconds and nanoseconds after the start of 1970. -/
def ofUnix (seconds : Int) (nanoseconds : Nat) : Instant :=
  let days := seconds / 86400 + 719468
  let rest := (seconds % 86400).toNat
  let era := days / 146097
  let dayOfEra := (days % 146097).toNat
  let yearOfEra := (dayOfEra - dayOfEra / 1460 + dayOfEra / 36524 - dayOfEra / 146096) / 365
  let dayOfYear := dayOfEra - (365 * yearOfEra + yearOfEra / 4 - yearOfEra / 100)
  let shifted := (5 * dayOfYear + 2) / 153
  let month := if shifted < 10 then shifted + 3 else shifted - 9
  { year := yearOfEra + era * 400 + (if month ≤ 2 then 1 else 0)
    month := month
    day := dayOfYear - (153 * shifted + 2) / 5 + 1
    hour := rest / 3600
    minute := rest / 60 % 60
    second := rest % 60
    nanosecond := nanoseconds }

/-! ### Text -/

/-- A number in decimal with zeros in front up to a width. -/
def padded (width n : Nat) : List Char :=
  let ds := Nat.toDigits 10 n
  List.replicate (width - ds.length) '0' ++ ds

/-- A year of the common era in four digits; any other year carries a sign. -/
def yearText (year : Int) : List Char :=
  if 0 ≤ year ∧ year ≤ 9999 then padded 4 year.toNat
  else (if year < 0 then '-' else '+') :: padded 4 year.natAbs

/-- The fraction of a second in as few groups of three digits as show it whole. -/
def fractionText (nanosecond : Nat) : List Char :=
  if nanosecond = 0 then []
  else if nanosecond % 1000000 = 0 then '.' :: padded 3 (nanosecond / 1000000)
  else if nanosecond % 1000 = 0 then '.' :: padded 6 (nanosecond / 1000)
  else '.' :: padded 9 nanosecond

/-- The characters of an instant as `YYYY-MM-DDThh:mm:ss`, a fraction if there is one, and `Z`. -/
def renderChars (t : Instant) : List Char :=
  yearText t.year ++ '-' :: padded 2 t.month ++ '-' :: padded 2 t.day ++ 'T' :: padded 2 t.hour
    ++ ':' :: padded 2 t.minute ++ ':' :: padded 2 t.second ++ fractionText t.nanosecond ++ ['Z']

/-- The text of an instant. -/
def render (t : Instant) : String :=
  String.ofList t.renderChars

end Instant

end Tidemark.Time
