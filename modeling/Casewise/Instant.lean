/-!
# Instants

An instant is a number of seconds since the start of 1970 in universal time and a number of
nanoseconds, which reaches a second or more within a leap second. It is written as a date of the
proleptic Gregorian calendar and a time of day.

* `CalendarDate.ofDays` — the date a number of days after 1 January 1970.
* `Instant.display` — date and time with the numeric offset `+00:00`.
* `Instant.inspect` — the same with `Z`.
-/

namespace Casewise

/-- A date of the proleptic Gregorian calendar. -/
structure CalendarDate where
  year : Int
  month : Nat
  day : Nat
deriving DecidableEq

/-- The digits of `n`, zeros in front up to `width`. -/
def padded (width n : Nat) : String :=
  let digits := toString n
  String.ofList (List.replicate (width - digits.length) '0') ++ digits

namespace CalendarDate

/-- The date `days` days after 1 January 1970. Years are counted from March, so that the leap day
is the last of its year, in eras of four hundred years. -/
def ofDays (days : Int) : CalendarDate :=
  let shifted := days + 719468
  let era := shifted.fdiv 146097
  let dayOfEra := (shifted.fmod 146097).toNat
  let yearOfEra := (dayOfEra - dayOfEra / 1460 + dayOfEra / 36524 - dayOfEra / 146096) / 365
  let dayOfYear := dayOfEra - (365 * yearOfEra + yearOfEra / 4 - yearOfEra / 100)
  let monthFromMarch := (5 * dayOfYear + 2) / 153
  let day := dayOfYear - (153 * monthFromMarch + 2) / 5 + 1
  let month := if monthFromMarch < 10 then monthFromMarch + 3 else monthFromMarch - 9
  ⟨era * 400 + yearOfEra + (if month ≤ 2 then 1 else 0), month, day⟩

/-- Four digits for the years 0 to 9999; any other year has a sign. -/
def yearText (year : Int) : String :=
  if 0 ≤ year ∧ year ≤ 9999 then padded 4 year.toNat
  else (if year < 0 then "-" else "+") ++ padded 4 year.natAbs

/-- The date as year, month and day. -/
def display (d : CalendarDate) : String :=
  yearText d.year ++ "-" ++ padded 2 d.month ++ "-" ++ padded 2 d.day

end CalendarDate

/-- Seconds since the start of 1970 and nanoseconds; `10 ^ 9` nanoseconds or more lie in a leap
second. -/
structure Instant where
  seconds : Int
  nanoseconds : Nat
deriving DecidableEq

namespace Instant

/-- A fraction of a second in three, six or nine digits, as few as are exact. -/
def fractionText (nanoseconds : Nat) : String :=
  if nanoseconds = 0 then ""
  else if nanoseconds % 1000000 = 0 then "." ++ padded 3 (nanoseconds / 1000000)
  else if nanoseconds % 1000 = 0 then "." ++ padded 6 (nanoseconds / 1000)
  else "." ++ padded 9 nanoseconds

/-- Date and time of day; a leap second shows as second 60. -/
def dateTime (i : Instant) : String :=
  let secondOfDay := (i.seconds.fmod 86400).toNat
  (CalendarDate.ofDays (i.seconds.fdiv 86400)).display ++ "T" ++
    padded 2 (secondOfDay / 3600) ++ ":" ++ padded 2 (secondOfDay / 60 % 60) ++ ":" ++
    padded 2 (secondOfDay % 60 + i.nanoseconds / 1000000000) ++
    fractionText (i.nanoseconds % 1000000000)

/-- An instant with its offset, which is always that of universal time. -/
def display (i : Instant) : String := i.dateTime ++ "+00:00"

/-- An instant with the letter for universal time. -/
def inspect (i : Instant) : String := i.dateTime ++ "Z"

end Instant

end Casewise
