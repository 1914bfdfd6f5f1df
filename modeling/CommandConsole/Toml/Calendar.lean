import CommandConsole.Toml.Lexical
import CommandConsole.Toml.Value

/-!
# Moments of TOML

Days of the calendar, times of the day, and both together with or without an offset. Days have to
exist, leap years included; a minute may have a leap second; seconds are always written.

* `daysInMonth`: how many days a month has.
-/

namespace CommandConsole.Toml

open Scanner

/-- Whether a year has a leap day. -/
def isLeapYear (year : Nat) : Bool :=
  year % 4 == 0 && (year % 100 != 0 || year % 400 == 0)

/-- How many days a month has. -/
def daysInMonth (year month : Nat) : Nat :=
  if month == 2 then if isLeapYear year then 29 else 28
  else if month == 4 || month == 6 || month == 9 || month == 11 then 30
  else 31

/-- A number of exactly `count` digits within bounds. -/
def field (count low high : Nat) : Scanner Nat := do
  let value := numeral 10 (← exactly count Char.isDigit)
  if low ≤ value && value ≤ high then return value else failure

/-- A day that exists. -/
def date : Scanner Date := do
  let year ← field 4 0 9999
  char '-'
  let month ← field 2 1 12
  char '-'
  let day ← field 2 1 (daysInMonth year month)
  return ⟨year, month, day⟩

/-- A time of the day. -/
def time : Scanner Time := do
  let hour ← field 2 0 23
  char ':'
  let minute ← field 2 0 59
  char ':'
  let second ← field 2 0 60
  let fraction ← optional do
    char '.'
    let first ← one Char.isDigit
    return first :: (← run Char.isDigit)
  return ⟨hour, minute, second, fraction.getD []⟩

/-- A distance from universal time. -/
def offset : Scanner Offset :=
  (discard (one fun c => c == 'Z' || c == 'z') *> pure .zulu) <|> do
    let mark ← one fun c => c == '+' || c == '-'
    let hour ← field 2 0 23
    char ':'
    let minute ← field 2 0 59
    return .custom (mark == '-') hour minute

/-- A day, a time, or both. -/
def moment : Scanner Moment :=
  (do
    let date ← date
    let rest ← optional do
      discard (one fun c => c == 'T' || c == 't' || c == ' ')
      return (← time, ← optional offset)
    match rest with
    | some (time, offset) => return .both date time offset
    | none => return .date date) <|>
  (Moment.time <$> time)

end CommandConsole.Toml
