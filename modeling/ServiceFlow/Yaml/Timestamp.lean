import ServiceFlow.Decimal.Numeral
import ServiceFlow.Yaml.Fault

/-!
# Timestamps of YAML

A timestamp is a date, or a date and a time of day separated by a `T` or blanks, with an optional
fraction of a second and an optional zone. Only a date whose month and day have two digits is one
without a time in a plain scalar.
-/

namespace ServiceFlow.Yaml

/-- A time of day as it is written: hour, minute, second, fraction digits, minutes ahead of
universal time. -/
structure WrittenTime where
  hour : Nat
  minute : Nat
  second : Nat
  fraction : List Char
  offset : Option Int
  deriving DecidableEq, Repr

/-- A timestamp as it is written. -/
structure WrittenTimestamp where
  year : Nat
  month : List Char
  day : List Char
  time : Option WrittenTime
  deriving DecidableEq, Repr

/-- The value of a run of decimal digits. -/
def numberOf (digits : List Char) : Nat := ofDigits 10 (digits.map digitOf)

/-- Between `least` and `most` digits, as many as there are. -/
def digitsBetween (least most : Nat) (cs : List Char) : Option (List Char × List Char) :=
  let digits := (cs.take most).takeWhile isDigit
  if least ≤ digits.length then some (digits, cs.drop digits.length) else none

/-- The text after a given character. -/
def after? (c : Char) : List Char → Option (List Char)
  | d :: rest => if d = c then some rest else none
  | [] => none

/-- A space or a tab. -/
def isTimeBlank (c : Char) : Bool := c = ' ' || c = '\t'

/-- What separates a date from a time. -/
def skipTimeMark : List Char → Option (List Char)
  | c :: rest =>
    if c = 'T' ∨ c = 't' then some rest
    else if isTimeBlank c then some (rest.dropWhile isTimeBlank)
    else none
  | [] => none

/-- A zone that takes the rest of the text: nothing, a `Z`, or a sign with hours and minutes. -/
def readZone (cs : List Char) : Option (Option Int) :=
  match cs.dropWhile isTimeBlank with
  | [] => if cs.isEmpty then some none else none
  | ['Z'] => some (some 0)
  | sign :: rest =>
    if sign = '+' ∨ sign = '-' then do
      let (hours, afterHours) ← digitsBetween 1 2 rest
      let minutes ← match afterHours with
        | [] => some 0
        | _ => do
          let (minutes, last) ← digitsBetween 2 2 (← after? ':' afterHours)
          if last.isEmpty then some (numberOf minutes) else none
      let span : Int := numberOf hours * 60 + minutes
      return some (if sign = '-' then -span else span)
    else none

/-- A time of day that takes the rest of the text. -/
def readTime (cs : List Char) : Option WrittenTime := do
  let (hour, afterHour) ← digitsBetween 1 2 cs
  let (minute, afterMinute) ← digitsBetween 2 2 (← after? ':' afterHour)
  let (second, afterSecond) ← digitsBetween 2 2 (← after? ':' afterMinute)
  let (fraction, afterFraction) := match afterSecond with
    | '.' :: rest => spanDigits rest
    | rest => ([], rest)
  return ⟨numberOf hour, numberOf minute, numberOf second, fraction, ← readZone afterFraction⟩

/-- A timestamp that takes the whole text. -/
def readTimestamp? (cs : List Char) : Option WrittenTimestamp := do
  let (year, afterYear) ← digitsBetween 4 4 cs
  let (month, afterMonth) ← digitsBetween 1 2 (← after? '-' afterYear)
  let (day, afterDay) ← digitsBetween 1 2 (← after? '-' afterMonth)
  let time ← match afterDay with
    | [] => some none
    | _ => (skipTimeMark afterDay >>= readTime).map some
  return ⟨numberOf year, month, day, time⟩

/-- Whether a plain scalar is a timestamp. -/
def isTimestampForm (cs : List Char) : Bool :=
  match readTimestamp? cs with
  | some t => t.time.isSome || (t.month.length == 2 && t.day.length == 2)
  | none => false

/-- The microseconds of a fraction; what lies beyond them is cut off. -/
def microseconds (fraction : List Char) : Nat :=
  numberOf ((fraction.take 6) ++ List.replicate (6 - fraction.length) '0')

/-- The date or the moment that a timestamp stands for. -/
def WrittenTimestamp.resolve (t : WrittenTimestamp) :
    Except CalendarFault (Date ⊕ DateTime) :=
  match t.time with
  | none => (Date.make t.year (numberOf t.month) (numberOf t.day)).map .inl
  | some time =>
    (DateTime.make t.year (numberOf t.month) (numberOf t.day) time.hour time.minute time.second
      (microseconds time.fraction) time.offset).map .inr

end ServiceFlow.Yaml
