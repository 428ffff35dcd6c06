import ReminderScan.Calendar.Timestamp
import ReminderScan.Text.Pattern

/-! Reminder tags in lines of text: two slashes, `@reminder`, a day, perhaps a time in square
brackets, a colon and a message. Digits count only in ASCII, blanks in every script. Of several
tags in a line the first decides. -/

namespace ReminderScan

open Text Calendar

def standardTime : String := "09:00"

/-- What a tag says. The point in time is missing where the day or the time does not
exist. -/
structure Tag where
  date : String
  time : String
  message : String
  scheduled : Option Timestamp
deriving DecidableEq

namespace Tag

/-- Two slashes, blanks, `@reminder`, blanks, a day, perhaps blanks and a time in brackets, a colon,
blanks and the message. The day, the time and the message are the groups one to three. -/
def pattern (digit : Char → Bool) : Pattern := .sequence [
  .literal ['/', '/'], .many isBlank, .literal ['@', 'r', 'e', 'm', 'i', 'n', 'd', 'e', 'r'],
  .some isBlank,
  .group 1
    (.sequence [.times 4 digit, .literal ['-'], .times 2 digit, .literal ['-'], .times 2 digit]),
  .optional (.sequence [.many isBlank, .literal ['['],
    .group 2 (.some fun c => digit c || c = ':'), .literal [']']]),
  .literal [':'], .many isBlank, .group 3 (.some (· ≠ '\n'))]

/-- The day and the time, where there is one, are in ASCII. -/
def isPlain (groups : Groups) : Bool :=
  let plain (text : List Char) : Bool := text.all fun c => c.toNat < 128
  (groups.lookup 1).all plain && (groups.lookup 2).all plain

/-- The first match in ASCII. The digits of other scripts match too; behind the start of such a
match the search goes on. -/
def firstPlain? (line : List Char) : Option Groups :=
  match _ : (pattern isDecimalDigit).search? line with
  | none => none
  | some (groups, rest) => if isPlain groups then some groups else firstPlain? rest
termination_by line.length
decreasing_by exact Pattern.length_lt_of_search? (by assumption)

def ofGroups (defaultTime : String) (groups : Groups) : Tag :=
  let date := (groups.lookup 1).getD []
  let time := match groups.lookup 2 with
    | some (c :: rest) => c :: rest
    | _ => defaultTime.toList
  ⟨String.ofList date, String.ofList time, String.ofList (trim ((groups.lookup 3).getD [])),
    Timestamp.ofDateAndTime? date time⟩

def read? (defaultTime : String) (line : List Char) : Option Tag :=
  (firstPlain? line).map (ofGroups defaultTime)

end Tag

def holds (part : List Char) : List Char → Bool
  | [] => part.isEmpty
  | c :: rest => part.isPrefixOf (c :: rest) || holds part rest

/-- A document opts out of searches when it holds the marker. The empty marker stands for none. -/
def optsOut (marker document : List Char) : Bool := !marker.isEmpty && holds marker document

end ReminderScan
