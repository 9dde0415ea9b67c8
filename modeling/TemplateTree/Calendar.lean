/-!
# Dates and times

Dates of the proleptic Gregorian calendar from year 1 to 9999, with times of day to the microsecond
and an optional offset from universal time. A date or time that does not exist is refused with the
reason.
-/

namespace TemplateTree

/-- A calendar date. -/
structure Date where
  year : Nat
  month : Nat
  day : Nat
  deriving DecidableEq, Repr, Inhabited

/-- A date with a time of day. The offset is in seconds east of universal time. -/
structure DateTime where
  date : Date
  hour : Nat
  minute : Nat
  second : Nat
  micro : Nat
  offset : Option Int
  deriving DecidableEq, Repr, Inhabited

namespace Calendar

/-- Whether a year has a 29th of February. -/
def isLeap (year : Nat) : Bool :=
  year % 4 == 0 && (year % 100 != 0 || year % 400 == 0)

/-- The number of days of a month. -/
def daysInMonth (year month : Nat) : Nat :=
  if month == 2 then (if isLeap year then 29 else 28)
  else if month == 4 || month == 6 || month == 9 || month == 11 then 30
  else 31

/-- The date, or why there is none. -/
def date? (year month day : Nat) : Except String Date :=
  if year < 1 || 9999 < year then .error ("year " ++ toString year ++ " is out of range")
  else if month < 1 || 12 < month then .error "month must be in 1..12"
  else if day < 1 || daysInMonth year month < day then .error "day is out of range for month"
  else .ok ⟨year, month, day⟩

/-- The date with a time of day, or why there is none. -/
def dateTime? (year month day hour minute second micro : Nat) (offset : Option Int) :
    Except String DateTime := do
  let date ← date? year month day
  if 23 < hour then .error "hour must be in 0..23"
  else if 59 < minute then .error "minute must be in 0..59"
  else if 59 < second then .error "second must be in 0..59"
  else pure ⟨date, hour, minute, second, micro, offset⟩

/-- The days before the first of January of a year, counted from year 1. -/
def daysBeforeYear (year : Nat) : Nat :=
  let y := year - 1
  y * 365 + y / 4 - y / 100 + y / 400

/-- The days of a year before the first of a month. -/
def daysBeforeMonth (year month : Nat) : Nat :=
  (List.range (month - 1)).foldl (fun days m => days + daysInMonth year (m + 1)) 0

/-- The number of a day, where the first of January of year 1 has number 1. -/
def ordinal (d : Date) : Nat :=
  daysBeforeYear d.year + daysBeforeMonth d.year d.month + d.day

/-- The seconds since the start of year 1, taken to universal time, and the microseconds. -/
def instant (t : DateTime) : Int × Nat :=
  ((ordinal t.date : Int) * 86400 + t.hour * 3600 + t.minute * 60 + t.second - t.offset.getD 0,
    t.micro)

/-- The digits of a number, filled up with zeros to a width. -/
def digits (width n : Nat) : String :=
  let s := toString n
  String.ofList (List.replicate (width - s.length) '0') ++ s

/-- A date as year, month and day. -/
def dateText (d : Date) : String :=
  digits 4 d.year ++ "-" ++ digits 2 d.month ++ "-" ++ digits 2 d.day

/-- A time of day, with microseconds if there are any. -/
def timeText (t : DateTime) : String :=
  digits 2 t.hour ++ ":" ++ digits 2 t.minute ++ ":" ++ digits 2 t.second
    ++ (if t.micro == 0 then "" else "." ++ digits 6 t.micro)

/-- An offset as hours and minutes, with seconds if there are any. -/
def offsetText (offset : Int) : String :=
  let n := offset.natAbs
  (if offset < 0 then "-" else "+") ++ digits 2 (n / 3600) ++ ":" ++ digits 2 (n / 60 % 60)
    ++ (if n % 60 == 0 then "" else ":" ++ digits 2 (n % 60))

/-- A date and time with `mark` between them. -/
def dateTimeText (mark : String) (t : DateTime) : String :=
  dateText t.date ++ mark ++ timeText t ++ (t.offset.map offsetText).getD ""

end Calendar

end TemplateTree
