import SchemaReview.Yaml.Fault

/-!
# Dates and times

A date is year, month and day. A time of day may follow, with a fraction of the second and with the
distance from universal time. The numbers are read first and then have to make up a date of the
calendar.
-/
namespace SchemaReview.Yaml

/-- A time of day as it is written. -/
structure WrittenTime where
  hour : Nat
  minute : Nat
  second : Nat
  fraction : List Char := []
  /-- The distance from universal time in seconds. -/
  offset : Option Int := none
deriving DecidableEq, Repr

/-- A date as it is written, and the time of day after it. -/
structure Moment where
  year : Nat
  month : Nat
  day : Nat
  time : Option WrittenTime := none
deriving DecidableEq, Repr

namespace Moment

/-- The number of exactly so many digits, and the rest. -/
def number? (size : Nat) (s : List Char) : Option (Nat × List Char) :=
  let digits := s.take size
  if digits.length = size && digits.all Char.isDigit then
    some (Text.digitsNat digits, s.drop size)
  else none

/-- The number of two digits or, failing that, of one. -/
def shortNumber? (s : List Char) : Option (Nat × List Char) :=
  match number? 2 s with
  | some r => some r
  | none => number? 1 s

/-- The rest after a character. -/
def after? (c : Char) : List Char → Option (List Char)
  | x :: rest => if x == c then some rest else none
  | [] => none

/-- The distance from universal time that a text consists of, if it is not empty. -/
def offset? (s : List Char) : Option (Option Int) :=
  let distance (sign : Int) (s : List Char) : Option (Option Int) := do
    let (hours, s) ← shortNumber? s
    if s.isEmpty then return some (sign * (hours * 3600))
    let (minutes, s) ← number? 2 (← after? ':' s)
    if s.isEmpty then return some (sign * (hours * 3600 + minutes * 60)) else none
  if s.isEmpty then some none
  else
    match s.dropWhile fun c => c == ' ' || c == '\t' with
    | ['Z'] => some (some 0)
    | '+' :: rest => distance 1 rest
    | '-' :: rest => distance (-1) rest
    | _ => none

def time? (s : List Char) : Option WrittenTime := do
  let (hour, s) ← shortNumber? s
  let (minute, s) ← number? 2 (← after? ':' s)
  let (second, s) ← number? 2 (← after? ':' s)
  let (fraction, s) :=
    match s with
    | '.' :: rest => (rest.takeWhile Char.isDigit, rest.dropWhile Char.isDigit)
    | rest => ([], rest)
  return ⟨hour, minute, second, fraction, ← offset? s⟩

/-- The date that a text spells, with the time after it. -/
def ofText? (s : List Char) : Option Moment := do
  let (year, s) ← number? 4 s
  let (month, s) ← shortNumber? (← after? '-' s)
  let (day, s) ← shortNumber? (← after? '-' s)
  match s with
  | [] => return ⟨year, month, day, none⟩
  | 'T' :: rest => return ⟨year, month, day, some (← time? rest)⟩
  | 't' :: rest => return ⟨year, month, day, some (← time? rest)⟩
  | c :: rest =>
    if c == ' ' || c == '\t' then
      let rest := rest.dropWhile fun c => c == ' ' || c == '\t'
      return ⟨year, month, day, some (← time? rest)⟩
    else none

/-- The first of the rules of the calendar that a date breaks. -/
def dateFault? (m : Moment) : Option CalendarFault :=
  if m.year = 0 then some (.year m.year)
  else if m.month = 0 || 12 < m.month then some .month
  else if m.day = 0 || daysInMonth m.year m.month < m.day then some .day
  else none

def timeFault? (t : WrittenTime) : Option CalendarFault :=
  if 23 < t.hour then some .hour
  else if 59 < t.minute then some .minute
  else if 59 < t.second then some .second
  else none

def offsetFault? (t : WrittenTime) : Option CalendarFault :=
  match t.offset with
  | some seconds => if 86400 ≤ seconds.natAbs then some (.offset seconds) else none
  | none => none

/-- The microseconds of a fraction of a second. -/
def microseconds (fraction : List Char) : Nat :=
  let digits := fraction.take 6
  Text.digitsNat (digits ++ List.replicate (6 - digits.length) '0')

/-- The value of a date, if it is one of the calendar. -/
def value (m : Moment) : Except CalendarFault Datum :=
  match m.time with
  | none =>
    match m.dateFault? with
    | some f => .error f
    | none => .ok (.date m.year m.month m.day)
  | some t =>
    match (offsetFault? t).or (m.dateFault?.or (timeFault? t)) with
    | some f => .error f
    | none =>
      .ok (.timestamp ⟨m.year, m.month, m.day, t.hour, t.minute, t.second,
        microseconds t.fraction, t.offset⟩)

end Moment
end SchemaReview.Yaml
