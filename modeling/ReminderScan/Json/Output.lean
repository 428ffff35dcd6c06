import ReminderScan.Fault
import ReminderScan.Json.Printer

/-! Values as they are written to a file, part by part. Where a part cannot be written, what comes
before it is in the file already. -/

namespace ReminderScan.Json

/-- What was written, and the fault that ended it too early if there was one. -/
structure Output where
  text : List Char
  fault : Option Fault := none
deriving DecidableEq

namespace Output

def behind (before : List Char) (o : Output) : Output := { o with text := before ++ o.text }

/-- The output of an item of a list behind what parts it from the item before. A number and what
parts it are written in one piece. -/
def behindPart (o : Output) (item : Value) (before : List Char) : Output :=
  match item, o.fault with
  | .int _, some _ => o
  | _, _ => o.behind before

/-- One output and then another, which is not begun if the first was ended by a fault. -/
def andThen (first second : Output) : Output :=
  match first.fault with
  | none => second.behind first.text
  | some _ => first

def ofText : Except String (List Char) → Output
  | .ok text => { text }
  | .error kind => { text := [], fault := some (.notSerialisable kind) }

end Output

def numberOutput (n : Int) : Output :=
  if Number.digitLimit < Number.digitCount n.natAbs then
    { text := [], fault := some .numberTooLong }
  else { text := Number.writtenInt n }

mutual

def Value.output (layout : Layout) (depth : Nat) : Value → Output
  | .null => { text := ['n', 'u', 'l', 'l'] }
  | .bool true => { text := ['t', 'r', 'u', 'e'] }
  | .bool false => { text := ['f', 'a', 'l', 's', 'e'] }
  | .int n => numberOutput n
  | .real x => { text := x.written Number.jsonStyle }
  | .text s => { text := writtenString layout.asciiOnly s }
  | .list [] => { text := ['[', ']'] }
  | .list (item :: items) =>
    (((item.output layout (depth + 1)).behindPart item
      ('[' :: layout.lineBreak (depth + 1))).andThen
      (outputItems layout (depth + 1) items)).andThen { text := layout.lineBreak depth ++ [']'] }
  | .object [] => { text := ['\x7b', '\x7d'] }
  | .object ((key, value) :: members) =>
    (((value.output layout (depth + 1)).behind
      ('\x7b' :: layout.lineBreak (depth + 1) ++ writtenString layout.asciiOnly key ++
        [':', ' '])).andThen
      (outputMembers layout (depth + 1) members)).andThen
        { text := layout.lineBreak depth ++ ['\x7d'] }
  | .foreign kind => { text := [], fault := some (.notSerialisable kind) }

def outputItems (layout : Layout) (depth : Nat) : List Value → Output
  | [] => { text := [] }
  | item :: items =>
    ((item.output layout depth).behindPart item (layout.separator depth)).andThen
      (outputItems layout depth items)

def outputMembers (layout : Layout) (depth : Nat) : List (String × Value) → Output
  | [] => { text := [] }
  | (key, value) :: members =>
    ((value.output layout depth).behind
      (layout.separator depth ++ writtenString layout.asciiOnly key ++ [':', ' '])).andThen
      (outputMembers layout depth members)

end

end ReminderScan.Json
