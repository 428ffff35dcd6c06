import ReminderScan.Fault
import ReminderScan.Number.Literal

/-! The snippet that an editor is offered for a new tag, and filling it in. -/

namespace ReminderScan

open Text Number

structure Completion where
  label : String
  kind : String
  insertText : String
  detail : String
  documentation : String
deriving DecidableEq

namespace Completion

def reminder : Completion where
  label := "@reminder snippet"
  kind := "snippet"
  insertText := "@reminder $\x7b1:YYYY-MM-DD\x7d [$\x7b2:HH:MM\x7d]: $\x7b3:Reminder message\x7d"
  detail := "Insert a reminder annotation"
  documentation := "Annotation format: \x60// @reminder YYYY-MM-DD [HH:MM]: Reminder message\x60"

/-- The suggestions for a line typed so far: the tag, once its first letters stand there
alone. -/
def suggestions (typed : String) : List Completion :=
  if "@rem".toList.isPrefixOf (trim typed.toList) then [reminder] else []

end Completion

namespace Snippet

/-- A part of a template: a character that stands for itself, or a numbered gap and what it shows
while it is empty. -/
inductive Piece where
  | plain (c : Char)
  | gap (digits placeholder : List Char)
deriving DecidableEq

/-- A gap at the start of a text, after its dollar sign: an opening brace, digits of any script, a
colon, and everything up to the next closing brace. Gives the text after it. -/
def readGap? : List Char → Option (Piece × List Char)
  | '\x7b' :: rest =>
    let digits := rest.takeWhile isDecimalDigit
    match digits, rest.dropWhile isDecimalDigit with
    | [], _ => none
    | digits, ':' :: rest =>
      match rest.dropWhile (· ≠ '\x7d') with
      | [] => none
      | _ :: after => some (.gap digits (rest.takeWhile (· ≠ '\x7d')), after)
    | _, _ => none
  | _ => none

/-- The pieces of a template, read with as much fuel as it has characters. -/
def piecesWith : (fuel : Nat) → List Char → List Piece
  | 0, _ => []
  | _ + 1, [] => []
  | fuel + 1, c :: rest =>
    if c = '$' then
      match readGap? rest with
      | some (gap, rest) => gap :: piecesWith fuel rest
      | none => .plain c :: piecesWith fuel rest
    else .plain c :: piecesWith fuel rest

def pieces (template : List Char) : List Piece := piecesWith template.length template

/-- A piece with the values put in: the first gap takes the first value, and so on. A gap without a
value, or with an empty one, shows its placeholder. -/
def Piece.fill (values : List String) : Piece → Except Fault (List Char)
  | .plain c => .ok [c]
  | .gap digits placeholder =>
    if digitLimit < digits.length then .error (.tooManyDigits digits.length)
    else
      match digitsValue digits with
      | 0 => .ok placeholder
      | n + 1 =>
        match values[n]? with
        | some value => .ok (if value = "" then placeholder else value.toList)
        | none => .ok placeholder

def fillPieces (values : List String) : List Piece → Except Fault (List Char)
  | [] => .ok []
  | piece :: rest => do
    let first ← piece.fill values
    let rest ← fillPieces values rest
    .ok (first ++ rest)

/-- A template with the values put in. Values are not searched for gaps. -/
def fill (template : String) (values : List String) : Except Fault String :=
  (fillPieces values (pieces template.toList)).map String.ofList

end Snippet
end ReminderScan
