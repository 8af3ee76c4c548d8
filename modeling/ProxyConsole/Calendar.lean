/-
# Dates of instants

An instant is a number of seconds since the start of 1970. Its date is that of
the proleptic Gregorian calendar: 400 years have 146097 days, and a year is
counted from March, so that the day left over in a leap year is its last.

Key definitions: `Calendar.civil`, `Calendar.text?`.
-/
import ProxyConsole.Number.Decimal

namespace ProxyConsole
namespace Calendar

/-- A day of the calendar; the year before year 1 is year 0. -/
structure Date where
  year : Int
  month : Nat
  day : Nat
  deriving DecidableEq, Repr

/-- The years within 400 that end before the day `d`, counted from March. -/
def yearsBefore (d : Nat) : Nat :=
  (d - d / 1460 + d / 36524 - d / 146096) / 365

/-- The first day of a year within 400, counted from March. -/
def firstDay (y : Nat) : Nat :=
  365 * y + y / 4 - y / 100

/-- The date of the day `n` days after the start of 1970. -/
def civil (n : Int) : Date :=
  let z := n + 719468
  let d := (z % 146097).toNat
  let y := yearsBefore d
  let r := d - firstDay y
  let m := (5 * r + 2) / 153
  let month := if m < 10 then m + 3 else m - 9
  { year := z / 146097 * 400 + y + (if month ≤ 2 then 1 else 0)
    month
    day := r - (153 * m + 2) / 5 + 1 }

/-- A year with four digits at least, and with a sign when it has more or is
before year 0. -/
def yearText (y : Int) : List Char :=
  if 0 ≤ y ∧ y ≤ 9999 then Decimal.padded 4 y.toNat
  else (if y < 0 then '-' else '+') :: Decimal.padded 4 y.natAbs

/-- The first and the last year that have dates. -/
def firstYear : Int := -262143
def lastYear : Int := 262142

/-- The date and time of an instant in UTC, none outside the years that have
dates. -/
def text? (seconds : Int) : Option String :=
  let date := civil (seconds / 86400)
  let s := (seconds % 86400).toNat
  if firstYear ≤ date.year ∧ date.year ≤ lastYear then
    some (String.ofList (
      yearText date.year ++ '-' :: Decimal.padded 2 date.month ++
      '-' :: Decimal.padded 2 date.day ++
      ' ' :: Decimal.padded 2 (s / 3600) ++
      ':' :: Decimal.padded 2 (s / 60 % 60) ++
      ':' :: Decimal.padded 2 (s % 60)) ++ " UTC")
  else none

example : text? 0 = some "1970-01-01 00:00:00 UTC" := by decide +kernel

example : text? 951868799 = some "2000-02-29 23:59:59 UTC" := by decide +kernel

end Calendar
end ProxyConsole
