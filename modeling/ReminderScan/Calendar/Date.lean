import ReminderScan.Number.Written
import ReminderScan.Text.Blank
import ReminderScan.Text.DecimalDigit
import ReminderScan.Text.Reader

/-! Days of the Gregorian calendar from year 1 to year 9999, and how they are written. -/

namespace ReminderScan.Calendar

open Text Number

/-- Every fourth year is a leap year, of the full centuries only every fourth. -/
def isLeapYear (year : Nat) : Bool := year % 4 = 0 && (year % 100 ≠ 0 || year % 400 = 0)

/-- The length of a month; there is no other month than the twelve. -/
def daysInMonth (year month : Nat) : Nat :=
  match month with
  | 1 | 3 | 5 | 7 | 8 | 10 | 12 => 31
  | 4 | 6 | 9 | 11 => 30
  | 2 => if isLeapYear year then 29 else 28
  | _ => 0

def IsDay (year month day : Nat) : Prop :=
  1 ≤ year ∧ year ≤ 9999 ∧ 1 ≤ month ∧ month ≤ 12 ∧ 1 ≤ day ∧ day ≤ daysInMonth year month

instance (y m d : Nat) : Decidable (IsDay y m d) := by unfold IsDay; infer_instance

structure Date where
  year : Nat
  month : Nat
  day : Nat
  isDay : IsDay year month day
deriving DecidableEq

namespace Date

def of? (year month day : Nat) : Option Date :=
  if h : IsDay year month day then some ⟨year, month, day, h⟩ else none

def readYear? : Reader Nat := fun text =>
  let year := text.take 4
  if year.length = 4 && year.all isDecimalDigit then some (digitsValue year, text.drop 4) else none

def isOneToNine (c : Char) : Bool := isAsciiDigit c && c ≠ '0'

def isMonth (a b : Char) : Bool :=
  a = '1' && (b = '0' || b = '1' || b = '2') || a = '0' && isOneToNine b

/-- Two characters that make a number up to 31. After `1` and `2` the second digit may be of any
script, and a space may stand where a zero does. -/
def isDayOfMonth (a b : Char) : Bool :=
  a = '3' && (b = '0' || b = '1') || (a = '1' || a = '2') && isDecimalDigit b ||
    (a = '0' || a = ' ') && isOneToNine b

def readMonth? : Reader Nat := .upToTwo isMonth isOneToNine

def readDay? : Reader Nat := .upToTwo isDayOfMonth isOneToNine

def numbers : Reader (Nat × Nat × Nat) := .around '-' readYear? (.around '-' readMonth? readDay?)

/-- The day that a text names as year, month and day. Nothing may be left over. -/
def ofText? (text : List Char) : Option Date :=
  (numbers.whole text).bind fun (year, month, day) => of? year month day

/-- The day in ten characters: four for the year, two for the month and two for the day. -/
def text (d : Date) : String :=
  String.ofList (padded 4 d.year ++ '-' :: padded 2 d.month ++ '-' :: padded 2 d.day)

/-- The day that a user names: blanks around it and a time after a `T` do not count. -/
def ofUserText? (text : String) : Option Date :=
  ofText? (trim (text.toList.takeWhile (· ≠ 'T')))

def rank (d : Date) : Nat := (d.year * 13 + d.month) * 32 + d.day

end Date
end ReminderScan.Calendar
