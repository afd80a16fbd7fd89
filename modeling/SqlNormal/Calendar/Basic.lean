import SqlNormal.Number.Digits

/-!
# Dates and times

Dates of the Gregorian calendar, carried on before its first year, times of day with nanoseconds,
and their written forms.

* `Date`, `Time`, `Timestamp`: valid by their types;
* `Date.text`: four digits for the years 0 to 9999, an explicit sign for any other year;
* `Time.text`: a fraction of 0, 3, 6 or 9 digits, the fewest that are exact;
* `Timestamp.text`: date and time with a character between them.
-/

namespace SqlNormal

/-- A year with a 29th of February. -/
def isLeapYear (year : Int) : Bool :=
  year % 4 == 0 && (year % 100 != 0 || year % 400 == 0)

/-- The number of days of a month. -/
def daysInMonth (year : Int) (month : Nat) : Nat :=
  if month = 2 then (if isLeapYear year then 29 else 28)
  else if month = 4 ∨ month = 6 ∨ month = 9 ∨ month = 11 then 30
  else 31

/-- The days that exist, in the years that are kept. -/
def IsDate (year : Int) (month day : Nat) : Prop :=
  (-262143 ≤ year ∧ year ≤ 262142) ∧ (1 ≤ month ∧ month ≤ 12) ∧
    (1 ≤ day ∧ day ≤ daysInMonth year month)

instance (year : Int) (month day : Nat) : Decidable (IsDate year month day) := by
  unfold IsDate; infer_instance

/-- A day of the calendar. -/
structure Date where
  year : Int
  month : Nat
  day : Nat
  valid : IsDate year month day
deriving DecidableEq

/-- A time of day; second 60 is a leap second. -/
structure Time where
  hour : Nat
  minute : Nat
  second : Nat
  nanosecond : Nat
  hour_lt : hour < 24
  minute_lt : minute < 60
  second_le : second ≤ 60
  nanosecond_lt : nanosecond < Nat.pow 10 9
deriving DecidableEq

/-- A day and a time on it. -/
structure Timestamp where
  date : Date
  time : Time
deriving DecidableEq

namespace Date

/-- The day of a year, a month and a day of the month, if there is one. -/
def ofParts? (year : Int) (month day : Nat) : Option Date :=
  if h : IsDate year month day then some ⟨year, month, day, h⟩ else none

/-- The written form of a year. -/
def yearText (year : Int) : List Char :=
  if 0 ≤ year ∧ year ≤ 9999 then Number.paddedDigits 4 year.natAbs
  else (if year < 0 then '-' else '+') :: Number.paddedDigits 4 year.natAbs

/-- The written form of a day. -/
def text (d : Date) : List Char :=
  yearText d.year ++ '-' :: Number.paddedDigits 2 d.month ++ '-' :: Number.paddedDigits 2 d.day

end Date

namespace Time

/-- The time of its parts, if they are in range. -/
def ofParts? (hour minute second nanosecond : Nat) : Option Time :=
  if h : hour < 24 ∧ minute < 60 ∧ second ≤ 60 ∧ nanosecond < Nat.pow 10 9 then
    some ⟨hour, minute, second, nanosecond, h.1, h.2.1, h.2.2.1, h.2.2.2⟩
  else none

/-- The written form of a fraction of a second. -/
def fractionText (nanosecond : Nat) : List Char :=
  if nanosecond = 0 then []
  else if nanosecond % Nat.pow 10 6 = 0 then
    '.' :: Number.paddedDigits 3 (nanosecond / Nat.pow 10 6)
  else if nanosecond % Nat.pow 10 3 = 0 then
    '.' :: Number.paddedDigits 6 (nanosecond / Nat.pow 10 3)
  else '.' :: Number.paddedDigits 9 nanosecond

/-- The written form of a time. -/
def text (t : Time) : List Char :=
  Number.paddedDigits 2 t.hour ++ ':' :: Number.paddedDigits 2 t.minute ++
    ':' :: Number.paddedDigits 2 t.second ++ fractionText t.nanosecond

end Time

/-- The written form of a timestamp. -/
def Timestamp.text (separator : Char) (t : Timestamp) : List Char :=
  t.date.text ++ separator :: t.time.text

end SqlNormal
