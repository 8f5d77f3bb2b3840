/-!
# Dates

Dates and times of day as texts, with days counted from the first of January 1970.

* `Calendar.Day`, `Calendar.toDays` — dates and numbers of days.
* `Calendar.seconds?` — a time from its text.
-/

namespace FlagSearch.Calendar

structure Day where
  year : Int
  month : Nat
  day : Nat

def cycle : Int := 146097

/-- The number of a day.  Years are counted from March on, so that the day that only some years have
is the last one. -/
def toDays (date : Day) : Int :=
  let year := if date.month ≤ 2 then date.year - 1 else date.year
  let era := Int.fdiv year 400
  let yearInEra := (year - era * 400).toNat
  let shiftedMonth := if date.month ≤ 2 then date.month + 9 else date.month - 3
  let inYear := (153 * shiftedMonth + 2) / 5 + date.day - 1
  let inEra := yearInEra * 365 + yearInEra / 4 - yearInEra / 100 + inYear
  era * cycle + inEra - 719468

def numbers? (separator text : String) : Option (List Nat) :=
  (text.splitOn separator).mapM String.toNat?

/-- The seconds since the start of 1970 that a text names: a date, perhaps with a time of day, or
a number after an at sign. -/
def seconds? (text : String) : Option Int := do
  if text.startsWith "@" then return ← (text.drop 1).toInt?
  let parts := ((text.replace "T" " ").splitOn " ").filter (· ≠ "")
  let (date, time) ← match parts with
    | [date] => some (date, "0:0:0")
    | [date, time] => some (date, time)
    | _ => none
  let [year, month, day] ← numbers? "-" date | none
  if month = 0 ∨ 12 < month ∨ day = 0 ∨ 31 < day then none
  let (hour, minute, second) ← match ← numbers? ":" time with
    | [hour, minute] => some (hour, minute, 0)
    | [hour, minute, second] => some (hour, minute, second)
    | _ => none
  if 23 < hour ∨ 59 < minute ∨ 60 < second then none
  some (toDays ⟨year, month, day⟩ * 86400 + hour * 3600 + minute * 60 + second)

end FlagSearch.Calendar
