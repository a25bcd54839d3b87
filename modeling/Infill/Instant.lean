import Infill.Text.Basic

/-!
# Instants

An instant is a number of nanoseconds since the start of 1970 in UTC.  `Instant.rfc3339` writes it
as a date and a time of day in the proleptic Gregorian calendar.
-/

namespace Infill

/-- A point in time, in nanoseconds since 1970-01-01T00:00:00Z. -/
structure Instant where
  nanos : Int
deriving DecidableEq, Repr

namespace Instant

/-- Nanoseconds in a second. -/
def second : Int := 1000000000

/-- The instant of a number of seconds and nanoseconds. -/
def ofSeconds (seconds : Int) (nanos : Nat) : Instant := { nanos := seconds * second + nanos }

/-- The nanoseconds from `earlier` to `later`, and zero if it is not earlier. -/
def age (earlier later : Instant) : Nat := (later.nanos - earlier.nanos).toNat

/-- The year, month and day of a number of days since 1970-01-01.  Years are counted from March,
so that the day of a leap year comes last, in eras of 400 years. -/
def civil (days : Int) : Int × Nat × Nat :=
  let shifted := days + 719468
  let era := shifted.fdiv 146097
  let dayOfEra := (shifted.fmod 146097).toNat
  let yearOfEra := (dayOfEra - dayOfEra / 1460 + dayOfEra / 36524 - dayOfEra / 146096) / 365
  let dayOfYear := dayOfEra - (365 * yearOfEra + yearOfEra / 4 - yearOfEra / 100)
  let month := (5 * dayOfYear + 2) / 153
  let day := dayOfYear - (153 * month + 2) / 5 + 1
  let year := era * 400 + yearOfEra
  if month < 10 then (year, month + 3, day) else (year + 1, month - 9, day)

/-- A year with at least four digits, and with its sign if it is not between 0 and 9999. -/
def yearText (year : Int) : Text :=
  if year < 0 then '-' :: Text.decimalFilled 4 year.natAbs
  else if 9999 < year then '+' :: Text.decimal year.natAbs
  else Text.decimalFilled 4 year.natAbs

/-- The fraction of a second in as few groups of three digits as it needs. -/
def fractionText (nanos : Nat) : Text :=
  if nanos = 0 then []
  else if nanos % 1000000 = 0 then '.' :: Text.decimalFilled 3 (nanos / 1000000)
  else if nanos % 1000 = 0 then '.' :: Text.decimalFilled 6 (nanos / 1000)
  else '.' :: Text.decimalFilled 9 nanos

/-- The nanoseconds since the last full second. -/
def subsecond (i : Instant) : Nat := (i.nanos.fmod second).toNat

/-- Date and time of day in full seconds. -/
def dateTime (i : Instant) : Text :=
  let seconds := i.nanos.fdiv second
  let (year, month, day) := civil (seconds.fdiv 86400)
  let ofDay := (seconds.fmod 86400).toNat
  yearText year ++ ['-'] ++ Text.decimalFilled 2 month ++ ['-'] ++ Text.decimalFilled 2 day ++
    ['T'] ++ Text.decimalFilled 2 (ofDay / 3600) ++ [':'] ++
    Text.decimalFilled 2 (ofDay / 60 % 60) ++ [':'] ++ Text.decimalFilled 2 (ofDay % 60)

/-- Date, time of day and the offset of UTC. -/
def rfc3339 (i : Instant) : Text := i.dateTime ++ fractionText i.subsecond ++ "+00:00".toList

/-- Date and time of day with six digits for the fraction of a second, and the letter for UTC. -/
def microseconds (i : Instant) : Text :=
  i.dateTime ++ '.' :: Text.decimalFilled 6 (i.subsecond / 1000) ++ ['Z']

end Instant

end Infill
