import UnitConversion.Settings.Datum

/-!
# Timestamps

A timestamp is a date, or a date and a time of day with an optional fraction of a second and an
optional distance from universal time. Reading has two steps: taking the text apart, and checking
that the parts are a date and a time that exist.
-/

namespace UnitConversion.Yaml

/-- A time of day as it is written. -/
structure ClockTime where
  /-- The hour. -/
  hour : Nat
  /-- The minute. -/
  minute : Nat
  /-- The second. -/
  second : Nat
  /-- The millionths of a second; further digits are dropped. -/
  micro : Nat
  /-- The seconds by which the time is ahead of universal time, if it is written. -/
  offset : Option Int
deriving DecidableEq, Repr

/-- A timestamp as it is written. -/
structure Timestamp where
  /-- The year. -/
  year : Nat
  /-- The month. -/
  month : Nat
  /-- The day of the month. -/
  day : Nat
  /-- The month and the day have two digits each. -/
  twoDigits : Bool
  /-- The time of day, if it is written. -/
  time : Option ClockTime
deriving DecidableEq, Repr

/-- Why a timestamp is none that exists. -/
inductive CalendarFault
  | year (number : Nat)
  | month
  | day
  | hour
  | minute
  | second
  /-- The distance from universal time is a day or more. -/
  | offset (seconds : Int)
deriving DecidableEq, Repr

/-- The fault in words. -/
def CalendarFault.message : CalendarFault → String
  | year number => s!"year {number} is out of range"
  | month => "month must be in 1..12"
  | day => "day is out of range for month"
  | hour => "hour must be in 0..23"
  | minute => "minute must be in 0..59"
  | second => "second must be in 0..59"
  | offset seconds =>
    "offset must be a timedelta strictly between -timedelta(hours=24) and timedelta(hours=24), " ++
      "not " ++ Moment.differenceText seconds ++ "."

/-- Take digits off the front, as many as there are up to a limit. Nothing when they are too few. -/
def takeDigits (least most : Nat) (chars : List Char) : Option (Nat × List Char) :=
  let digits := (chars.take most).takeWhile Char.isDigit
  if digits.length < least then none
  else some (Text.digitsValue digits, chars.drop digits.length)

/-- Take a character off the front. -/
def takeChar (c : Char) : List Char → Option (List Char)
  | [] => none
  | first :: rest => if first = c then some rest else none

/-- A space or a tab. -/
def isSpace (c : Char) : Bool := c = ' ' || c = '\t'

/-- The distance from universal time: the letter Z, or a sign and hours, and minutes if need be. -/
def takeOffset : List Char → Option Int
  | 'Z' :: rest => if rest.isEmpty then some 0 else none
  | sign :: rest => do
    guard (sign = '+' ∨ sign = '-')
    let (hours, rest) ← takeDigits 1 2 rest
    let minutes ←
      if rest.isEmpty then some 0
      else do
        let (minutes, rest) ← takeDigits 2 2 (← takeChar ':' rest)
        if rest.isEmpty then some minutes else none
    let seconds : Int := 3600 * hours + 60 * minutes
    return if sign = '-' then -seconds else seconds
  | [] => none

/-- The millionths that the digits after a point stand for. -/
def microOfDigits (digits : List Char) : Nat :=
  let kept := digits.take 6
  Text.digitsValue kept * Nat.pow 10 (6 - kept.length)

/-- Take a time of day apart. -/
def ClockTime.ofChars? (chars : List Char) : Option ClockTime := do
  let (hour, rest) ← takeDigits 1 2 chars
  let (minute, rest) ← takeDigits 2 2 (← takeChar ':' rest)
  let (second, rest) ← takeDigits 2 2 (← takeChar ':' rest)
  let (fraction, rest) := match rest with
    | '.' :: tail => (tail.takeWhile Char.isDigit, tail.dropWhile Char.isDigit)
    | _ => ([], rest)
  let offset ← if rest.isEmpty then some none else (takeOffset (rest.dropWhile isSpace)).map some
  return ⟨hour, minute, second, microOfDigits fraction, offset⟩

/-- What follows a date: nothing, or a letter T or blanks and a time of day. -/
def timeAfterDate : List Char → Option (Option ClockTime)
  | [] => some none
  | c :: rest =>
    if c = 'T' ∨ c = 't' then (ClockTime.ofChars? rest).map some
    else if isSpace c then (ClockTime.ofChars? (rest.dropWhile isSpace)).map some
    else none

/-- Take a timestamp apart. -/
def Timestamp.ofChars? (chars : List Char) : Option Timestamp := do
  let (year, rest) ← takeDigits 4 4 chars
  let monthStart ← takeChar '-' rest
  let (month, rest) ← takeDigits 1 2 monthStart
  let dayStart ← takeChar '-' rest
  let (day, afterDay) ← takeDigits 1 2 dayStart
  let twoDigits := monthStart.length = rest.length + 2 ∧ dayStart.length = afterDay.length + 2
  return ⟨year, month, day, twoDigits, ← timeAfterDate afterDay⟩

/-- A text without marks is taken for a timestamp when it has a time of day, or two digits for both
the month and the day. -/
def looksTimestamp (chars : List Char) : Bool :=
  (Timestamp.ofChars? chars).any fun timestamp => timestamp.time.isSome || timestamp.twoDigits

/-- A year with a twenty-ninth of February. -/
def isLeapYear (year : Nat) : Bool := year % 4 = 0 && (year % 100 ≠ 0 || year % 400 = 0)

/-- The number of days of a month. -/
def daysInMonth (year month : Nat) : Nat :=
  if month = 2 then if isLeapYear year then 29 else 28
  else if month = 4 ∨ month = 6 ∨ month = 9 ∨ month = 11 then 30
  else 31

/-- The parts are a date that exists. -/
def checkDate (year month day : Nat) : Except CalendarFault Unit :=
  if year = 0 then .error (.year year)
  else if month < 1 ∨ 12 < month then .error .month
  else if day < 1 ∨ daysInMonth year month < day then .error .day
  else .ok ()

/-- The parts are a time of day that exists. -/
def checkTime (time : ClockTime) : Except CalendarFault Unit :=
  if 23 < time.hour then .error .hour
  else if 59 < time.minute then .error .minute
  else if 59 < time.second then .error .second
  else .ok ()

/-- The distance from universal time is less than a day. -/
def checkOffset (offset : Option Int) : Except CalendarFault Unit :=
  match offset with
  | some seconds => if seconds.natAbs < 86400 then .ok () else .error (.offset seconds)
  | none => .ok ()

/-- The date or the point in time that a timestamp stands for. -/
def Timestamp.datum (timestamp : Timestamp) : Except CalendarFault Datum := do
  let (year, month, day) := (timestamp.year, timestamp.month, timestamp.day)
  match timestamp.time with
  | none =>
    checkDate year month day
    return .date year month day
  | some time =>
    checkOffset time.offset
    checkDate year month day
    checkTime time
    return .moment ⟨year, month, day, time.hour, time.minute, time.second, time.micro, time.offset⟩

end UnitConversion.Yaml
