/-!
# Dates and times

A date is a day of the proleptic Gregorian calendar in the years 1 to 9999. A time of day belongs to
a date and may say how far it lies from universal time. Both are shown in two forms: the plain form
with dashes and colons, and the constructor form that a collection shows.
-/

namespace ServiceFlow

/-- Why three numbers are no date, or a time no time of day. -/
inductive CalendarFault where
  | year (n : Nat)
  | month
  | day
  | hour
  | minute
  | second
  | offset (minutes : Int)
  deriving DecidableEq, Repr

/-- A calendar day. -/
structure Date where
  year : Nat
  month : Nat
  day : Nat
  deriving DecidableEq, Repr

/-- A moment of a day, with the minutes by which it is ahead of universal time if that is known. -/
structure DateTime where
  date : Date
  hour : Nat
  minute : Nat
  second : Nat
  microsecond : Nat
  offset : Option Int
  deriving DecidableEq, Repr

/-- Whether February has a twenty-ninth day. -/
def isLeapYear (year : Nat) : Bool := year % 4 == 0 && (year % 100 != 0 || year % 400 == 0)

/-- The number of days of a month. -/
def daysInMonth (year month : Nat) : Nat :=
  if month = 2 then if isLeapYear year then 29 else 28
  else if month = 4 ∨ month = 6 ∨ month = 9 ∨ month = 11 then 30 else 31

/-- The date, if there is such a day. -/
def Date.make (year month day : Nat) : Except CalendarFault Date :=
  if year = 0 ∨ 9999 < year then .error (.year year)
  else if month = 0 ∨ 12 < month then .error .month
  else if day = 0 ∨ daysInMonth year month < day then .error .day
  else .ok ⟨year, month, day⟩

/-- The time, if there is such a day and such a time of day; an offset is less than a day. -/
def DateTime.make (year month day hour minute second microsecond : Nat) (offset : Option Int) :
    Except CalendarFault DateTime := do
  if let some minutes := offset then
    if 1440 ≤ minutes.natAbs then throw (.offset minutes)
  let date ← Date.make year month day
  if 24 ≤ hour then throw .hour
  if 60 ≤ minute then throw .minute
  if 60 ≤ second then throw .second
  return ⟨date, hour, minute, second, microsecond, offset⟩

/-- The days from the first day of the year 1 to a date, of a real calendar day. -/
def Date.number (d : Date) : Nat :=
  let y := d.year - 1
  let before := (List.range (d.month - 1)).foldl (fun n m => n + daysInMonth d.year (m + 1)) 0
  365 * y + y / 4 - y / 100 + y / 400 + before + d.day

/-- The minutes of universal time at which a moment lies, when its offset is known. -/
def DateTime.universalMinute? (t : DateTime) : Option Int :=
  t.offset.map fun offset => (t.date.number * 1440 + t.hour * 60 + t.minute : Nat) - offset

/-- Whether two times are the same moment. A time without offset is the moment of no other form. -/
def DateTime.same (a b : DateTime) : Bool :=
  match a.universalMinute?, b.universalMinute? with
  | some m, some n => m == n && a.second == b.second && a.microsecond == b.microsecond
  | none, none => a == b
  | _, _ => false

/-- A number with zeros in front up to a width. -/
def padded (width n : Nat) : String :=
  let digits := toString n
  String.ofList (List.replicate (width - digits.length) '0') ++ digits

/-- A date with dashes. -/
def Date.render (d : Date) : String :=
  s!"{padded 4 d.year}-{padded 2 d.month}-{padded 2 d.day}"

/-- A date as a collection shows it. -/
def Date.quoted (d : Date) : String := s!"datetime.date({d.year}, {d.month}, {d.day})"

/-- An offset as hours and minutes with a sign. -/
def renderOffset (minutes : Int) : String :=
  let sign := if minutes < 0 then "-" else "+"
  s!"{sign}{padded 2 (minutes.natAbs / 60)}:{padded 2 (minutes.natAbs % 60)}"

/-- A span of minutes as whole days, which may be negative, and the seconds beyond them. -/
def quotedSpan (minutes : Int) : String :=
  let days := minutes / 1440
  let seconds := minutes % 1440 * 60
  let parts := (if days = 0 then [] else [s!"days={days}"]) ++
    (if seconds = 0 then [] else [s!"seconds={seconds}"])
  "datetime.timedelta(" ++ String.intercalate ", " parts ++ ")"

/-- A time with dashes and colons; the fraction and the offset are left out when there are none. -/
def DateTime.render (t : DateTime) : String :=
  let fraction := if t.microsecond = 0 then "" else "." ++ padded 6 t.microsecond
  let offset := (t.offset.map renderOffset).getD ""
  s!"{t.date.render} {padded 2 t.hour}:{padded 2 t.minute}:{padded 2 t.second}"
    ++ fraction ++ offset

/-- A time as a collection shows it; trailing zeros of the time of day are left out. -/
def DateTime.quoted (t : DateTime) : String :=
  let d := t.date
  let fields := [d.year, d.month, d.day, t.hour, t.minute] ++
    (if t.microsecond ≠ 0 then [t.second, t.microsecond]
     else if t.second ≠ 0 then [t.second] else [])
  let zone := match t.offset with
    | none => []
    | some 0 => ["tzinfo=datetime.timezone.utc"]
    | some minutes => [s!"tzinfo=datetime.timezone({quotedSpan minutes})"]
  "datetime.datetime(" ++ String.intercalate ", " (fields.map toString ++ zone) ++ ")"

/-- What is wrong, in words. -/
def CalendarFault.message : CalendarFault → String
  | .year n => s!"year {n} is out of range"
  | .month => "month must be in 1..12"
  | .day => "day is out of range for month"
  | .hour => "hour must be in 0..23"
  | .minute => "minute must be in 0..59"
  | .second => "second must be in 0..59"
  | .offset minutes =>
    "offset must be a timedelta strictly between -timedelta(hours=24) and timedelta(hours=24), not "
      ++ quotedSpan minutes ++ "."

end ServiceFlow
