import RouteWatch.Time.Span

/-!
# Calendar time

The date and the time of day of a number of seconds since the start of 1970, without leap seconds and
in universal time. Years are counted from March, so that a leap day comes last; 400 years have
146097 days.
-/

namespace RouteWatch

/-- A date with a time of day. -/
structure CalendarTime where
  year : Nat
  /-- The month, from 1 on. -/
  month : Nat
  /-- The day of the month, from 1 on. -/
  day : Nat
  hour : Nat
  minute : Nat
  second : Nat
  deriving DecidableEq

namespace CalendarTime

/-- The year, month and day of a number of days since the start of 1970. -/
def dateOfDays (days : Nat) : Nat × Nat × Nat :=
  let shifted := days + 719468
  let era := shifted / 146097
  let dayOfEra := shifted % 146097
  let yearOfEra := (dayOfEra - dayOfEra / 1460 + dayOfEra / 36524 - dayOfEra / 146096) / 365
  let dayOfYear := dayOfEra - (365 * yearOfEra + yearOfEra / 4 - yearOfEra / 100)
  let monthFromMarch := (5 * dayOfYear + 2) / 153
  let day := dayOfYear - (153 * monthFromMarch + 2) / 5 + 1
  let month := if monthFromMarch < 10 then monthFromMarch + 3 else monthFromMarch - 9
  let year := yearOfEra + era * 400 + (if month ≤ 2 then 1 else 0)
  (year, month, day)

/-- The date and the time of day after a number of seconds since the start of 1970. -/
def ofSeconds (seconds : Nat) : CalendarTime :=
  let (year, month, day) := dateOfDays (seconds / 86400)
  let inDay := seconds % 86400
  ⟨year, month, day, inDay / 3600, inDay / 60 % 60, inDay % 60⟩

/-- The number with leading zeros up to the width. -/
def padded (width n : Nat) : String :=
  let digits := decimal n
  String.ofList (List.replicate (width - digits.length) '0' ++ digits)

def date (t : CalendarTime) : String :=
  "-".intercalate [padded 4 t.year, padded 2 t.month, padded 2 t.day]

def timeOfDay (sep : String) (t : CalendarTime) : String :=
  sep.intercalate [padded 2 t.hour, padded 2 t.minute, padded 2 t.second]

/-- The time as it stands in a report. -/
def text (t : CalendarTime) : String :=
  t.date ++ "T" ++ t.timeOfDay ":" ++ "Z"

/-- The time as it stands in the name of a file. -/
def stamp (t : CalendarTime) : String :=
  t.date ++ "_" ++ t.timeOfDay "-"

end CalendarTime

end RouteWatch
