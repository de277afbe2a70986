import SiteSearch.Text.Pieces
import SiteSearch.Text.Unsigned

/-!
# Seconds and calendar

Seconds since the beginning of 1970 as a date and a time of day in the Gregorian calendar, which is
taken to hold also before its introduction. Days are counted from the first of March of the year
zero, so that a leap day is the last day of a year.
-/
namespace SiteSearch

/-- A second of the calendar. -/
structure CalendarTime where
  year : Int
  month : Nat
  day : Nat
  hour : Nat
  minute : Nat
  second : Nat
  deriving DecidableEq, Repr

namespace CalendarTime

/-- Seconds of a day. -/
def secondsPerDay : Int := 86400

/-- Days from the first of March of the year zero to the beginning of 1970. -/
def marchToEpoch : Int := 719468

/-- Days of four hundred years. -/
def daysPerEra : Int := 146097

/-- Year, month and day of a day that is counted from the beginning of 1970. -/
def date (days : Int) : Int × Nat × Nat :=
  let fromMarch := days + marchToEpoch
  let era := fromMarch.fdiv daysPerEra
  let dayOfEra := (fromMarch.fmod daysPerEra).toNat
  let yearOfEra :=
    (dayOfEra - dayOfEra / 1460 + dayOfEra / 36524 - dayOfEra / 146096) / 365
  let dayOfYear := dayOfEra - (365 * yearOfEra + yearOfEra / 4 - yearOfEra / 100)
  let monthFromMarch := (5 * dayOfYear + 2) / 153
  let day := dayOfYear - (153 * monthFromMarch + 2) / 5 + 1
  let month := if monthFromMarch < 10 then monthFromMarch + 3 else monthFromMarch - 9
  let year := (yearOfEra : Int) + era * 400 + (if month ≤ 2 then 1 else 0)
  (year, month, day)

/-- The calendar time of a second. -/
def ofSeconds (seconds : Int) : CalendarTime :=
  let (year, month, day) := date (seconds.fdiv secondsPerDay)
  let inDay := (seconds.fmod secondsPerDay).toNat
  { year, month, day, hour := inDay / 3600, minute := inDay / 60 % 60, second := inDay % 60 }

/-- A number with zeros in front up to a width. -/
def padded (width n : Nat) : List Char :=
  let digits := Text.decimal n
  List.replicate (width - digits.length) '0' ++ digits

/-- A year with four digits or more; outside of these four digits it has a sign. -/
def yearText (year : Int) : List Char :=
  if 0 ≤ year && year ≤ 9999 then padded 4 year.toNat
  else if 0 ≤ year then '+' :: padded 4 year.toNat
  else '-' :: padded 4 year.natAbs

/-- The date, without separators. -/
def dateStamp (t : CalendarTime) : String :=
  String.ofList (yearText t.year ++ padded 2 t.month ++ padded 2 t.day)

/-- The date and the time of day, without separators between their parts. -/
def stamp (t : CalendarTime) : String :=
  t.dateStamp ++ "T"
    ++ String.ofList (padded 2 t.hour ++ padded 2 t.minute ++ padded 2 t.second) ++ "Z"

end CalendarTime

end SiteSearch
