/-!
# Points in time

A point in time is a date and a time of day in a place whose distance from universal time may be
known.
-/

namespace UnitConversion

/-- A point in time. -/
structure Moment where
  /-- The year. -/
  year : Nat
  /-- The month, from one. -/
  month : Nat
  /-- The day of the month, from one. -/
  day : Nat
  /-- The hour. -/
  hour : Nat
  /-- The minute. -/
  minute : Nat
  /-- The second. -/
  second : Nat
  /-- The millionths of a second. -/
  micro : Nat
  /-- The seconds by which local time is ahead, if they are known. -/
  offset : Option Int
deriving DecidableEq, Repr

namespace Moment

/-- The number of a day of the calendar, days that follow each other having numbers that do. Years
are counted from March, so that a leap day is the last one of its year. -/
def dayNumber (year month day : Nat) : Nat :=
  let (years, months) := if month ≤ 2 then (year - 1, month + 9) else (year, month - 3)
  365 * years + years / 4 - years / 100 + years / 400 + (153 * months + 2) / 5 + day

/-- A leap day is the day before the first of March. -/
example : dayNumber 2000 3 1 = dayNumber 2000 2 29 + 1 := by decide

/-- The last day of a year is the day before the first of the next. -/
example : dayNumber 2001 1 1 = dayNumber 2000 12 31 + 1 := by decide

/-- The seconds from a fixed point to a moment as a clock shows it that is ahead by an offset. -/
def seconds (value : Moment) (offset : Int) : Int :=
  let minutes := (24 * dayNumber value.year value.month value.day + value.hour) * 60 + value.minute
  ((minutes * 60 + value.second : Nat) : Int) - offset

/-- Two moments are the same. Where the distance from universal time is known, that time counts. -/
def sameAs (left right : Moment) : Bool :=
  match left.offset, right.offset with
  | none, none => left == right
  | some leftOffset, some rightOffset =>
    left.seconds leftOffset == right.seconds rightOffset && left.micro == right.micro
  | _, _ => false

/-- A number with leading zeros. -/
def padded (width number : Nat) : String :=
  let digits := toString number
  String.ofList (List.replicate (width - digits.length) '0') ++ digits

/-- A difference of times, in whole days and the seconds after them. -/
def differenceText (seconds : Int) : String :=
  let days := seconds / 86400
  let rest := seconds % 86400
  let parts := (if days = 0 then [] else [s!"days={days}"]) ++
    (if rest = 0 then [] else [s!"seconds={rest}"])
  "datetime.timedelta(" ++ (if parts.isEmpty then "0" else ", ".intercalate parts) ++ ")"

/-- A time zone as messages show it inside other values. -/
def zoneText (offset : Int) : String :=
  if offset = 0 then "datetime.timezone.utc"
  else "datetime.timezone(" ++ differenceText offset ++ ")"

/-- A point in time as messages show it inside other values: seconds and their millionths are left
out when nothing but zeros would follow. -/
def render (value : Moment) : String :=
  let always := [value.year, value.month, value.day, value.hour, value.minute]
  let numbers :=
    if value.micro ≠ 0 then always ++ [value.second, value.micro]
    else if value.second ≠ 0 then always ++ [value.second]
    else always
  let zone := match value.offset with
    | some offset => ["tzinfo=" ++ zoneText offset]
    | none => []
  "datetime.datetime(" ++ ", ".intercalate (numbers.map toString ++ zone) ++ ")"

/-- A date in its standard form. -/
def dateText (year month day : Nat) : String :=
  padded 4 year ++ "-" ++ padded 2 month ++ "-" ++ padded 2 day

/-- A time zone in its standard form. -/
def zoneSuffix (offset : Int) : String :=
  let minutes := offset.natAbs / 60
  let seconds := offset.natAbs % 60
  (if offset < 0 then "-" else "+") ++ padded 2 (minutes / 60) ++ ":" ++ padded 2 (minutes % 60) ++
    (if seconds = 0 then "" else ":" ++ padded 2 seconds)

/-- A point in time in its standard form. -/
def text (value : Moment) : String :=
  dateText value.year value.month value.day ++ " " ++ padded 2 value.hour ++ ":" ++
    padded 2 value.minute ++ ":" ++ padded 2 value.second ++
    (if value.micro = 0 then "" else "." ++ padded 6 value.micro) ++
    (match value.offset with
      | some offset => zoneSuffix offset
      | none => "")

end Moment

end UnitConversion
