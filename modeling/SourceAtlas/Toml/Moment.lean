/-
Points in time in a settings document: a date, a time of day, or both with
an optional offset from universal time. Only those that exist can be built:
months have their days, leap years included, and a day its hours.

How a point in time is written is what the values of the `toml` package say of
themselves; the package is no part of the program.

Consumed by `Toml.Basic`.
-/
import SourceAtlas.Text.Basic

namespace SourceAtlas

-- =============================================================== dates

/-- Whether a year has a day more in February. -/
def isLeapYear (year : Nat) : Bool :=
  year % 4 == 0 && (year % 100 != 0 || year % 400 == 0)

/-- The number of days in a month of a year. -/
def daysInMonth (year month : Nat) : Nat :=
  if month = 2 then (if isLeapYear year then 29 else 28)
  else if month = 4 || month = 6 || month = 9 || month = 11 then 30
  else 31

/-- A day of the calendar. -/
structure CalendarDate where
  year : Nat
  month : Nat
  day : Nat
  year_pos : 1 ≤ year
  month_mem : 1 ≤ month ∧ month ≤ 12
  day_mem : 1 ≤ day ∧ day ≤ daysInMonth year month
  deriving DecidableEq, Repr

/-- The date with the given numbers, if there is one. -/
def CalendarDate.make? (year month day : Nat) : Option CalendarDate :=
  if h : 1 ≤ year ∧ (1 ≤ month ∧ month ≤ 12) ∧ 1 ≤ day
    ∧ day ≤ daysInMonth year month then
    some ⟨year, month, day, h.1, h.2.1, h.2.2⟩
  else none

/-- A time of day, with the millionths of a second. -/
structure TimeOfDay where
  hour : Nat
  minute : Nat
  second : Nat
  micros : Nat
  hour_lt : hour < 24
  minute_lt : minute < 60
  second_lt : second < 60
  deriving DecidableEq, Repr

/-- The time with the given numbers, if there is one. -/
def TimeOfDay.make? (hour minute second micros : Nat) : Option TimeOfDay :=
  if h : hour < 24 ∧ minute < 60 ∧ second < 60 then
    some ⟨hour, minute, second, micros, h.1, h.2.1, h.2.2⟩
  else none

/-- A point in time; an offset is counted in minutes. -/
inductive Moment where
  | date (d : CalendarDate)
  | time (t : TimeOfDay)
  | both (d : CalendarDate) (t : TimeOfDay) (offset : Option Int)
  deriving DecidableEq, Repr

-- ======================================================== written form

/-- A number with zeros before it up to a length. -/
def padded (length n : Nat) : Text :=
  let digits := Text.ofNat n
  List.replicate (length - digits.length) '0' ++ digits

/-- A date as year, month and day. -/
def CalendarDate.text (d : CalendarDate) : Text :=
  padded 4 d.year ++ '-' :: padded 2 d.month ++ '-' :: padded 2 d.day

/-- A time as hours, minutes and seconds, with six decimal places unless they
are zero. -/
def TimeOfDay.text (t : TimeOfDay) : Text :=
  padded 2 t.hour ++ ':' :: padded 2 t.minute ++ ':' :: padded 2 t.second
    ++ if t.micros = 0 then [] else '.' :: padded 6 t.micros

/-- An offset as a sign, hours and minutes. -/
def offsetText (minutes : Int) : Text :=
  (if minutes < 0 then '-' else '+') :: padded 2 (minutes.natAbs / 60)
    ++ ':' :: padded 2 (minutes.natAbs % 60)

namespace Moment

/-- A point in time as a text of its own. -/
def text : Moment → Text
  | date d => d.text
  | time t => t.text
  | both d t offset =>
      d.text ++ ' ' :: t.text ++ ((offset.map offsetText).getD [])

/-- Numbers with commas between them. -/
def fields (numbers : List Nat) : Text :=
  Text.join ", ".toList (numbers.map Text.ofNat)

/-- The numbers of a date. -/
def dateNumbers (d : CalendarDate) : List Nat := [d.year, d.month, d.day]

/-- The numbers of a time, without seconds and millionths that are zero. -/
def timeNumbers (t : TimeOfDay) : List Nat :=
  [t.hour, t.minute] ++ if t.micros ≠ 0 then [t.second, t.micros]
    else if t.second ≠ 0 then [t.second] else []

/-- An offset inside another value. A negative one is written as a day back
and the seconds forward from there. -/
def offsetInner (minutes : Int) : Text :=
  if minutes = 0 then "datetime.timezone.utc"
  else if minutes < 0 then
    "datetime.timezone(datetime.timedelta(days=-1, seconds=".toList
      ++ Text.ofInt (86400 + minutes * 60) ++ "))".toList
  else
    "datetime.timezone(datetime.timedelta(seconds=".toList
      ++ Text.ofInt (minutes * 60) ++ "))".toList

/-- A point in time inside another value. -/
def inner : Moment → Text
  | date d => "datetime.date(".toList ++ fields (dateNumbers d) ++ [')']
  | time t => "datetime.time(".toList ++ fields (timeNumbers t) ++ [')']
  | both d t offset =>
    "datetime.datetime(".toList ++ fields (dateNumbers d ++ timeNumbers t)
      ++ ((offset.map fun minutes =>
        ", tzinfo=".toList ++ offsetInner minutes).getD []) ++ [')']

end Moment

end SourceAtlas
