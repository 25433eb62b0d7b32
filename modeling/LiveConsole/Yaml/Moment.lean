import LiveConsole.Fault
import LiveConsole.Number.Binary64

/-!
# Days and moments

A day is written as year, month and day; a moment adds the time of day, perhaps parts of a second, and
perhaps the distance from universal time. The calendar is the Gregorian one for all years from 1 on.
-/
namespace LiveConsole.Yaml

/-- A distance from universal time as it is written: its sign, hours and minutes. -/
structure WrittenZone where
  /-- Whether the clock is behind universal time. -/
  isBehind : Bool
  /-- Hours. -/
  hours : Nat
  /-- Minutes. -/
  minutes : Nat
  deriving DecidableEq, Repr

/-- A time of day as it is written. -/
structure WrittenTime where
  /-- Hours. -/
  hour : Nat
  /-- Minutes. -/
  minute : Nat
  /-- Seconds. -/
  second : Nat
  /-- The digits behind the point of the seconds. -/
  fraction : List Char
  /-- The distance from universal time. -/
  zone : Option WrittenZone
  deriving DecidableEq, Repr

/-- A day or moment as it is written, with numbers that need not make sense. -/
structure WrittenMoment where
  /-- The year. -/
  year : Nat
  /-- The month. -/
  month : Nat
  /-- The day of the month. -/
  day : Nat
  /-- The time of day. -/
  time : Option WrittenTime
  deriving DecidableEq, Repr

namespace WrittenMoment

/-- Read a number of at least and at most so many digits. -/
def takeNumber (least greatest : Nat) (chars : List Char) : Option (Nat × List Char) :=
  let digits := (chars.take greatest).takeWhile Char.isDigit
  if digits.length < least then none
  else some (Number.ofDigits digits, chars.drop digits.length)

/-- Read a given character. -/
def takeSign (sign : Char) : List Char → Option (List Char)
  | c :: rest => if c = sign then some rest else none
  | [] => none

/-- Whether a character is a blank or a tab. -/
def isInnerBlank (c : Char) : Bool := c == ' ' || c == '\t'

/-- Read a distance from universal time, which ends the text. -/
def readZone? : List Char → Option WrittenZone
  | ['Z'] => some ⟨false, 0, 0⟩
  | sign :: rest => do
    if sign != '+' && sign != '-' then none
    let (hours, rest) ← takeNumber 1 2 rest
    match rest with
    | [] => some ⟨sign == '-', hours, 0⟩
    | _ =>
      let (minutes, rest) ← takeNumber 2 2 (← takeSign ':' rest)
      if rest.isEmpty then some ⟨sign == '-', hours, minutes⟩ else none
  | [] => none

/-- Read a time of day, which ends the text. -/
def readTime? (chars : List Char) : Option WrittenTime := do
  let (hour, rest) ← takeNumber 1 2 chars
  let (minute, rest) ← takeNumber 2 2 (← takeSign ':' rest)
  let (second, rest) ← takeNumber 2 2 (← takeSign ':' rest)
  let (fraction, rest) :=
    match rest with
    | '.' :: rest => (rest.takeWhile Char.isDigit, rest.dropWhile Char.isDigit)
    | _ => ([], rest)
  if rest.isEmpty then some ⟨hour, minute, second, fraction, none⟩
  else some ⟨hour, minute, second, fraction, some (← readZone? (rest.dropWhile isInnerBlank))⟩

/-- The text behind what separates a day from the time of day. -/
def dropGap? : List Char → Option (List Char)
  | c :: rest =>
    if c = 'T' ∨ c = 't' then some rest
    else if isInnerBlank c then some (rest.dropWhile isInnerBlank)
    else none
  | [] => none

/-- Read a day or a moment. -/
def read? (chars : List Char) : Option WrittenMoment := do
  let (year, rest) ← takeNumber 4 4 chars
  let (month, rest) ← takeNumber 1 2 (← takeSign '-' rest)
  let (day, rest) ← takeNumber 1 2 (← takeSign '-' rest)
  if rest.isEmpty then some ⟨year, month, day, none⟩
  else some ⟨year, month, day, some (← readTime? (← dropGap? rest))⟩

/-- Whether a plain scalar looks like a day or a moment: a day alone needs all its digits. -/
def looksRight (chars : List Char) : Bool :=
  match read? chars with
  | none => false
  | some found => found.time.isSome || chars.length == 10

end WrittenMoment

/-- A day or a moment of the calendar. -/
inductive Moment where
  /-- A day. -/
  | day (year : Nat) (month : Nat) (day : Nat)
  /-- A moment, with its distance from universal time in minutes. -/
  | time (year : Nat) (month : Nat) (day : Nat) (hour : Nat) (minute : Nat) (second : Nat)
      (microsecond : Nat) (offset : Option Int)
  deriving DecidableEq, Repr

namespace Moment

/-- Whether a year has a leap day. -/
def isLeap (year : Nat) : Bool := year % 4 == 0 && (year % 100 != 0 || year % 400 == 0)

/-- The number of days of a month. -/
def daysIn (year month : Nat) : Nat :=
  if month = 2 then if isLeap year then 29 else 28
  else if month = 4 ∨ month = 6 ∨ month = 9 ∨ month = 11 then 30
  else 31

/-- A fault of a number outside its range. -/
def rangeFault (message : String) : Fault := .raised "ValueError" message

/-- Check a day of the calendar. -/
def checkDay (year month day : Nat) : Except Fault Unit :=
  if year = 0 then .error (rangeFault "year 0 is out of range")
  else if month = 0 ∨ 12 < month then .error (rangeFault "month must be in 1..12")
  else if day = 0 ∨ daysIn year month < day then .error (rangeFault "day is out of range for month")
  else .ok ()

/-- Check a time of day. -/
def checkTime (hour minute second : Nat) : Except Fault Unit :=
  if 23 < hour then .error (rangeFault "hour must be in 0..23")
  else if 59 < minute then .error (rangeFault "minute must be in 0..59")
  else if 59 < second then .error (rangeFault "second must be in 0..59")
  else .ok ()

/-- The written form of a length of time: whole days, possibly negative, and seconds. -/
def writtenLength (minutes : Int) : String :=
  let days := minutes.fdiv 1440
  let seconds := minutes.fmod 1440 * 60
  let parts :=
    (if days = 0 then [] else [s!"days={days}"]) ++ (if seconds = 0 then [] else [s!"seconds={seconds}"])
  let shown := if parts.isEmpty then "0" else String.intercalate ", " parts
  "datetime.timedelta(" ++ shown ++ ")"

/-- The distance from universal time in minutes; it is less than a day. -/
def offsetOf (zone : WrittenZone) : Except Fault Int :=
  let size : Int := zone.hours * 60 + zone.minutes
  let minutes := if zone.isBehind then -size else size
  if size < 1440 then .ok minutes
  else
    .error (rangeFault ("offset must be a timedelta strictly between -timedelta(hours=24) and " ++
      "timedelta(hours=24), not " ++ writtenLength minutes ++ "."))

/-- The first six digits behind the point as a number of millionths. -/
def millionths (digits : List Char) : Nat :=
  let digits := digits.take 6
  Number.ofDigits digits * Nat.pow 10 (6 - digits.length)

/-- The day or moment that is written; a wrong distance from universal time counts first. -/
def ofWritten (written : WrittenMoment) : Except Fault Moment := do
  let offset ←
    match written.time.bind (·.zone) with
    | none => pure none
    | some zone => some <$> offsetOf zone
  checkDay written.year written.month written.day
  match written.time with
  | none => return .day written.year written.month written.day
  | some clock =>
    checkTime clock.hour clock.minute clock.second
    return .time written.year written.month written.day clock.hour clock.minute clock.second
      (millionths clock.fraction) offset

/-- The number of days of the years before a year. -/
def daysBeforeYear (year : Nat) : Nat :=
  let past := year - 1
  past * 365 + past / 4 - past / 100 + past / 400

/-- The number of days of a year before a month. -/
def daysBeforeMonth (year month : Nat) : Nat :=
  (List.range (month - 1)).foldl (fun days before => days + daysIn year (before + 1)) 0

/-- The number of microseconds from the start of the calendar to a day and time. -/
def microseconds (year month date hour minute second microsecond : Nat) : Nat :=
  let days := daysBeforeYear year + daysBeforeMonth year month + date
  (((days * 24 + hour) * 60 + minute) * 60 + second) * 1000000 + microsecond

/-- When a moment is that says its distance from universal time. -/
def instant? : Moment → Option Int
  | time year month date hour minute second microsecond (some offset) =>
    some (microseconds year month date hour minute second microsecond - offset * 60000000)
  | _ => none

/-- Whether two moments are the same: at the same time, if both say their distance from universal time. -/
def isSame (left right : Moment) : Bool :=
  match left.instant?, right.instant? with
  | some left, some right => left == right
  | none, none => left == right
  | _, _ => false

/-- A number with at least so many digits. -/
def padded (width value : Nat) : String :=
  let digits := Nat.toDigits 10 value
  String.ofList (List.replicate (width - digits.length) '0' ++ digits)

/-- The text of a day. -/
def dayText (year month day : Nat) : String :=
  padded 4 year ++ "-" ++ padded 2 month ++ "-" ++ padded 2 day

/-- The text of a distance from universal time. -/
def offsetText (offset : Int) : String :=
  (if offset < 0 then "-" else "+") ++ padded 2 (offset.natAbs / 60) ++ ":" ++
    padded 2 (offset.natAbs % 60)

/-- The text of a day or a moment. -/
def text : Moment → String
  | day year month date => dayText year month date
  | time year month date hour minute second microsecond offset =>
    dayText year month date ++ " " ++ padded 2 hour ++ ":" ++ padded 2 minute ++ ":" ++
      padded 2 second ++ (if microsecond = 0 then "" else "." ++ padded 6 microsecond) ++
      (offset.map offsetText).getD ""

/-- The written form of a distance from universal time. -/
def writtenOffset (offset : Int) : String :=
  if offset = 0 then "datetime.timezone.utc" else "datetime.timezone(" ++ writtenLength offset ++ ")"

/-- The written form of a day or a moment. -/
def written : Moment → String
  | day year month date => s!"datetime.date({year}, {month}, {date})"
  | time year month date hour minute second microsecond offset =>
    let small :=
      if microsecond ≠ 0 then [second, microsecond] else if second ≠ 0 then [second] else []
    let numbers := [year, month, date, hour, minute] ++ small
    let zone := (offset.map fun offset => ", tzinfo=" ++ writtenOffset offset).getD ""
    "datetime.datetime(" ++ String.intercalate ", " (numbers.map toString) ++ zone ++ ")"

end Moment

end LiveConsole.Yaml
