import ReminderScan.Text.DecimalDigit
import ReminderScan.Text.Pattern
import ReminderScan.Text.Reader

/-! Times of day in writing. Tags and settings write two digits for the hour and two for the minute;
the formats by which the numbers are read allow more. -/

namespace ReminderScan.Calendar

open Text

/-- Two ASCII digits, a colon and two ASCII digits. -/
def clockPattern : Pattern :=
  .sequence [.times 2 isAsciiDigit, .literal [':'], .times 2 isAsciiDigit]

/-- An ASCII digit up to a last one, with a digit of any script behind it. -/
def isTens (last a b : Char) : Bool := isAsciiDigit a && a ≤ last && isDecimalDigit b

/-- Two digits that make the number of an hour. After `2` the second digit is an ASCII digit. -/
def isHour (a b : Char) : Bool := a = '2' && isAsciiDigit b && b ≤ '3' || isTens '1' a b

/-- Two digits that make the number of a second. There may be one or two seconds more than sixty. -/
def isSecond (a b : Char) : Bool := a = '6' && (b = '0' || b = '1') || isTens '5' a b

def readHour? : Reader Nat := .upToTwo isHour isDecimalDigit

def readMinute? : Reader Nat := .upToTwo (isTens '5') isDecimalDigit

def readSecond? : Reader Nat := .upToTwo isSecond isDecimalDigit

def hourAndMinute : Reader (Nat × Nat) := .around ':' readHour? readMinute?

def hourMinuteSecond : Reader (Nat × Nat × Nat) :=
  .around ':' readHour? (.around ':' readMinute? readSecond?)

/-- The time of a clock in hours and minutes, each with two digits. The pattern lets a line feed
stand at the end, the format does not. -/
def isClockTime (text : List Char) : Bool :=
  clockPattern.matchesTo (fun rest => rest = [] || rest = ['\n']) text &&
    (hourAndMinute.whole text).isSome

end ReminderScan.Calendar
