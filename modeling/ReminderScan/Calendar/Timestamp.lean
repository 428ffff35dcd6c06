import ReminderScan.Calendar.Clock
import ReminderScan.Calendar.Date

/-! Points in time on a local clock, to the microsecond. -/

namespace ReminderScan.Calendar

open Text Number

def IsTime (hour minute second microsecond : Nat) : Prop :=
  hour < 24 ∧ minute < 60 ∧ second < 60 ∧ microsecond < 1000000

instance (h m s u : Nat) : Decidable (IsTime h m s u) := by unfold IsTime; infer_instance

structure Timestamp where
  date : Date
  hour : Nat
  minute : Nat
  second : Nat
  microsecond : Nat
  isTime : IsTime hour minute second microsecond
deriving DecidableEq

namespace Timestamp

/-- The point in time with these parts, if a clock shows it. -/
def of? (date : Date) (hour minute second microsecond : Nat) : Option Timestamp :=
  if h : IsTime hour minute second microsecond then
    some ⟨date, hour, minute, second, microsecond, h⟩
  else none

def numbers : Reader ((Nat × Nat × Nat) × Nat × Nat × Nat) :=
  .around 'T' Date.numbers hourMinuteSecond

/-- The point in time that a text names as a day and a time of day. Nothing may be left over. -/
def ofText? (text : List Char) : Option Timestamp := do
  let ((year, month, day), hour, minute, second) ← numbers.whole text
  of? (← Date.of? year month day) hour minute second 0

/-- The point in time that a written day and a written time name together, if hour and minute have
two digits each. -/
def ofDateAndTime? (date time : List Char) : Option Timestamp :=
  if clockPattern.matchesTo List.isEmpty time then
    ofText? (date ++ 'T' :: (time ++ [':', '0', '0']))
  else none

/-- The point in time written as a day, `T`, hours, minutes, seconds and perhaps a decimal fraction
of a second with up to six digits. -/
def ofIso? (text : String) : Option Timestamp := do
  let cs := text.toList
  let day ← Date.ofText? (cs.take 10)
  match cs.drop 10 with
  | 'T' :: a :: b :: ':' :: c :: d :: ':' :: e :: f :: rest =>
    let fraction ← match rest with
      | [] => some []
      | '.' :: fraction => if fraction.length ≤ 6 then some fraction else none
      | _ => none
    if ([a, b, c, d, e, f] ++ fraction).all isAsciiDigit then
      of? day (digitsValue [a, b]) (digitsValue [c, d]) (digitsValue [e, f])
        (digitsValue (fraction ++ List.replicate (6 - fraction.length) '0'))
    else none
  | _ => none

def clock (t : Timestamp) : String :=
  String.ofList (padded 2 t.hour ++ ':' :: padded 2 t.minute)

def fullClock (t : Timestamp) : String :=
  t.clock ++ String.ofList (':' :: padded 2 t.second)

/-- The day, `T` and the time of day; the microseconds only where there are any. -/
def iso (t : Timestamp) : String :=
  t.date.text ++ "T" ++ t.fullClock ++
    (if t.microsecond = 0 then "" else String.ofList ('.' :: padded 6 t.microsecond))

/-- The day and the time of day with a space between. Here the year has as many digits as it
needs. -/
def listing (t : Timestamp) : String :=
  String.ofList (padded 0 t.date.year ++ '-' :: padded 2 t.date.month ++
    '-' :: padded 2 t.date.day ++ [' ']) ++ t.fullClock

def rank (t : Timestamp) : Nat :=
  (((t.date.rank * 24 + t.hour) * 60 + t.minute) * 60 + t.second) * 1000000 + t.microsecond

instance : LE Timestamp := ⟨fun a b => a.rank ≤ b.rank⟩

instance (a b : Timestamp) : Decidable (a ≤ b) := inferInstanceAs (Decidable (a.rank ≤ b.rank))

def listing? : Option Timestamp → String
  | none => "invalid date"
  | some t => t.listing

def clock? : Option Timestamp → String
  | none => "--:--"
  | some t => t.clock

def fallsOn (day : Date) : Option Timestamp → Bool
  | none => false
  | some t => t.date = day

end Timestamp
end ReminderScan.Calendar
