/-! Days and instants of the proleptic Gregorian calendar, as they stand in manifests. An instant is a
local time of a day, to the microsecond, with or without its distance from universal time. -/

namespace ManifestGrading

/-- A day of the calendar. -/
structure Date where
  year : Nat
  month : Nat
  day : Nat
  deriving Repr, DecidableEq

/-- A time of a day; `offset` is the distance of local time from universal time in minutes. -/
structure Instant where
  date : Date
  hour : Nat
  minute : Nat
  second : Nat
  microsecond : Nat
  offset : Option Int
  deriving Repr, DecidableEq

/-- Why numbers are no day or no time of a day. -/
inductive CalendarFault where
  | year (number : Nat)
  | month
  | day
  | hour
  | minute
  | second
  | offset (minutes : Int)
  deriving Repr, DecidableEq

namespace Calendar

def isLeap (year : Nat) : Bool := year % 4 = 0 && (year % 100 != 0 || year % 400 = 0)

def daysIn (year month : Nat) : Nat :=
  if month = 2 then (if isLeap year then 29 else 28)
  else if month = 4 ∨ month = 6 ∨ month = 9 ∨ month = 11 then 30
  else 31

/-- A number with leading zeros. -/
def digits (width n : Nat) : String :=
  let cs := Nat.toDigits 10 n
  String.ofList (List.replicate (width - cs.length) '0' ++ cs)

/-- A span of minutes as whole days, counted downwards, and the seconds that are left. -/
def daysAndSeconds (minutes : Int) : Int × Int := (minutes.fdiv 1440, minutes.fmod 1440 * 60)

/-- The constructor form of a span of minutes. -/
def spanExpression (minutes : Int) : String :=
  let (days, seconds) := daysAndSeconds minutes
  let parts :=
    (if days = 0 then [] else ["days=" ++ toString days]) ++
      (if seconds = 0 then [] else ["seconds=" ++ toString seconds])
  "datetime.timedelta(" ++ (if parts = [] then "0" else ", ".intercalate parts) ++ ")"

end Calendar

open Calendar

def CalendarFault.message : CalendarFault → String
  | .year n => "year " ++ toString n ++ " is out of range"
  | .month => "month must be in 1..12"
  | .day => "day is out of range for month"
  | .hour => "hour must be in 0..23"
  | .minute => "minute must be in 0..59"
  | .second => "second must be in 0..59"
  | .offset minutes =>
    "offset must be a timedelta strictly between -timedelta(hours=24) and timedelta(hours=24), not " ++
      spanExpression minutes ++ "."

namespace Date

def ofFields (year month day : Nat) : Except CalendarFault Date :=
  if year = 0 ∨ 9999 < year then .error (.year year)
  else if month = 0 ∨ 12 < month then .error .month
  else if day = 0 ∨ daysIn year month < day then .error .day
  else .ok ⟨year, month, day⟩

def text (d : Date) : String := digits 4 d.year ++ "-" ++ digits 2 d.month ++ "-" ++ digits 2 d.day

def expression (d : Date) : String :=
  "datetime.date(" ++ ", ".intercalate ([d.year, d.month, d.day].map toString) ++ ")"

/-- The number of days before the given one in the calendar. -/
def ordinal (d : Date) : Nat :=
  let y := d.year - 1
  y * 365 + y / 4 - y / 100 + y / 400 +
    (((List.range (d.month - 1)).map fun m => daysIn d.year (m + 1)).foldl (· + ·) 0) + (d.day - 1)

end Date

namespace Instant

/-- The instant with the given numbers. The distance from universal time is judged first, then the day,
then the time of day. -/
def ofFields (year month day hour minute second microsecond : Nat) (offset : Option Int) :
    Except CalendarFault Instant := do
  if let some minutes := offset then
    if 1440 ≤ minutes.natAbs then throw (.offset minutes)
  let date ← Date.ofFields year month day
  if 23 < hour then throw .hour
  if 59 < minute then throw .minute
  if 59 < second then throw .second
  return ⟨date, hour, minute, second, microsecond, offset⟩

/-- The distance from universal time as hours and minutes. -/
def offsetText (minutes : Int) : String :=
  (if minutes < 0 then "-" else "+") ++ digits 2 (minutes.natAbs / 60) ++ ":" ++ digits 2 (minutes.natAbs % 60)

/-- The text of an instant; `separator` stands between the day and the time. -/
def text (separator : String) (t : Instant) : String :=
  t.date.text ++ separator ++ digits 2 t.hour ++ ":" ++ digits 2 t.minute ++ ":" ++ digits 2 t.second ++
    (if t.microsecond = 0 then "" else "." ++ digits 6 t.microsecond) ++ (t.offset.elim "" offsetText)

/-- The constructor form of an instant; seconds and microseconds of zero are left out at the end. -/
def expression (t : Instant) : String :=
  let fields := [t.date.year, t.date.month, t.date.day, t.hour, t.minute] ++
    (if t.second = 0 ∧ t.microsecond = 0 then [] else [t.second]) ++
    (if t.microsecond = 0 then [] else [t.microsecond])
  let zone := match t.offset with
    | none => []
    | some minutes =>
      if minutes = 0 then ["tzinfo=datetime.timezone.utc"]
      else ["tzinfo=datetime.timezone(" ++ spanExpression minutes ++ ")"]
  "datetime.datetime(" ++ ", ".intercalate (fields.map toString ++ zone) ++ ")"

/-- The microseconds before an instant, in universal time where its distance from it is known. -/
def microseconds (t : Instant) : Int :=
  let seconds : Int := ((t.date.ordinal * 24 + t.hour) * 60 + t.minute) * 60 + t.second
  (seconds - t.offset.getD 0 * 60) * 1000000 + t.microsecond

end Instant

end ManifestGrading
