/-!
# Calendar minutes

The proleptic Gregorian calendar: which calendar minute a time in seconds since
1970-01-01 00:00 falls in, and the stamp of that minute in file names.
-/

namespace HangulConsole
namespace Calendar

structure Minute where
  /-- The year; the year before year 1 is year 0. -/
  year : Int
  month : Nat
  day : Nat
  hour : Nat
  minute : Nat
deriving Repr, DecidableEq

/-- The number of days from 0000-03-01 to 1970-01-01. -/
def epochDays : Int := 719468

/-- The year, month and day of the day that comes `days` days after 1970-01-01.  Years are counted
from March here, so that the leap day is the last day of its year. -/
def dateOfDays (days : Int) : Int × Nat × Nat :=
  let shifted := days + epochDays
  let era := Int.fdiv shifted 146097
  let dayOfEra := (Int.fmod shifted 146097).toNat
  let yearOfEra := (dayOfEra - dayOfEra / 1460 + dayOfEra / 36524 - dayOfEra / 146096) / 365
  let dayOfYear := dayOfEra - (365 * yearOfEra + yearOfEra / 4 - yearOfEra / 100)
  let monthFromMarch := (5 * dayOfYear + 2) / 153
  let day := dayOfYear - (153 * monthFromMarch + 2) / 5 + 1
  let month := if monthFromMarch < 10 then monthFromMarch + 3 else monthFromMarch - 9
  let year := (yearOfEra : Int) + era * 400 + (if month ≤ 2 then 1 else 0)
  (year, month, day)

def Minute.ofSeconds (seconds : Int) : Minute :=
  let (year, month, day) := dateOfDays (Int.fdiv seconds 86400)
  let secondOfDay := (Int.fmod seconds 86400).toNat
  { year, month, day, hour := secondOfDay / 3600, minute := secondOfDay / 60 % 60 }

def padded (width n : Nat) : String :=
  let digits := Nat.toDigits 10 n
  String.ofList (List.replicate (width - digits.length) '0' ++ digits)

/-- A year has at least four digits, and a sign when it is not one of 0 to 9999. -/
def yearText (year : Int) : String :=
  if 0 ≤ year && year < 10000 then padded 4 year.toNat
  else (if year < 0 then "-" else "+") ++ padded 4 year.natAbs

def Minute.stamp (m : Minute) : String :=
  yearText m.year ++ padded 2 m.month ++ padded 2 m.day ++ "_" ++
    padded 2 m.hour ++ padded 2 m.minute

def firstSecond : Int := -8334601228800

def lastSecond : Int := 8210266876799

/-- The local minute at a Unix time, `offset` seconds east of Greenwich, if the clock can show the
time and there is such an offset: one of less than a day. -/
def minuteAt? (seconds offset : Int) : Option Minute :=
  if firstSecond ≤ seconds && seconds ≤ lastSecond && offset.natAbs < 86400 then
    some (.ofSeconds (seconds + offset))
  else
    none

end Calendar
end HangulConsole
