/-!
# Dates and points in time

Days of the calendar that is in use today, extended to all years, and points in time with their
texts.
-/
namespace SchemaReview

def isLeapYear (y : Nat) : Bool := y % 4 = 0 && (y % 100 ≠ 0 || y % 400 = 0)

def daysInMonth (year month : Nat) : Nat :=
  if month = 2 then if isLeapYear year then 29 else 28
  else if month = 4 || month = 6 || month = 9 || month = 11 then 30
  else 31

/-- How many days there are up to a date, from the first day of the year one on. -/
def dayNumber (year month day : Nat) : Nat :=
  let before := year - 1
  365 * before + before / 4 - before / 100 + before / 400 +
    (List.range (month - 1)).foldl (fun days m => days + daysInMonth year (m + 1)) 0 + day

/-- A point in time, with its distance from universal time in seconds, if one was given. -/
structure Timestamp where
  year : Nat
  month : Nat
  day : Nat
  hour : Nat
  minute : Nat
  second : Nat
  microsecond : Nat
  offset : Option Int
deriving DecidableEq, Repr

/-- A number with at least `width` digits. -/
def padded (width n : Nat) : String :=
  let digits := Nat.toDigits 10 n
  String.ofList (List.replicate (width - digits.length) '0' ++ digits)

namespace Timestamp

/-- A number of seconds, as a call that makes a duration. -/
def durationShown (seconds : Int) : String :=
  let days := seconds.fdiv 86400
  let rest := seconds.fmod 86400
  let dayPart := if days = 0 then [] else ["days=" ++ toString days]
  let secondPart := if rest = 0 then [] else ["seconds=" ++ toString rest]
  "datetime.timedelta(" ++ ", ".intercalate (dayPart ++ secondPart) ++ ")"

/-- The distance from universal time, as a call that makes it. -/
def offsetShown (seconds : Int) : String :=
  if seconds = 0 then "datetime.timezone.utc"
  else "datetime.timezone(" ++ durationShown seconds ++ ")"

/-- The distance from universal time, as hours and minutes. -/
def offsetText (seconds : Int) : String :=
  let n := seconds.natAbs
  (if seconds < 0 then "-" else "+") ++ padded 2 (n / 3600) ++ ":" ++ padded 2 (n / 60 % 60)

def shown (t : Timestamp) : String :=
  let tail :=
    if t.microsecond ≠ 0 then [t.second, t.microsecond]
    else if t.second ≠ 0 then [t.second]
    else []
  let numbers := ([t.year, t.month, t.day, t.hour, t.minute] ++ tail).map toString
  let zone := match t.offset with
    | some seconds => ["tzinfo=" ++ offsetShown seconds]
    | none => []
  "datetime.datetime(" ++ ", ".intercalate (numbers ++ zone) ++ ")"

def text (t : Timestamp) : String :=
  padded 4 t.year ++ "-" ++ padded 2 t.month ++ "-" ++ padded 2 t.day ++ " " ++
  padded 2 t.hour ++ ":" ++ padded 2 t.minute ++ ":" ++ padded 2 t.second ++
  (if t.microsecond = 0 then "" else "." ++ padded 6 t.microsecond) ++
  (match t.offset with | some seconds => offsetText seconds | none => "")

/-- The point in universal time in microseconds. A time without a distance is taken as it is. -/
def instant (t : Timestamp) : Int :=
  let minutes := (dayNumber t.year t.month t.day * 24 + t.hour) * 60 + t.minute
  (((minutes * 60 + t.second : Nat) : Int) - t.offset.getD 0) * 1000000 + t.microsecond

/-- Whether two values are one point in time. One with and one without a distance never are. -/
def isSameInstant (s t : Timestamp) : Bool :=
  s.offset.isSome = t.offset.isSome && s.instant = t.instant

end Timestamp
end SchemaReview
