import ReminderScan.Json.Value
import ReminderScan.Number.Literal
import ReminderScan.Number.Written
import ReminderScan.Text.Quoted

/-! Values as document text. -/

namespace ReminderScan.Json

open Text

structure Layout where
  /-- What one level is set in by, each item on a line of its own; `none` puts all on one line. -/
  indent : Option (List Char)
  /-- Characters outside ASCII are written by number. -/
  asciiOnly : Bool

/-- Settings and answers: two spaces a level, ASCII only. -/
def Layout.settings : Layout := ⟨some [' ', ' '], true⟩

/-- Exports: a number of spaces a level, characters as they are. -/
def Layout.export (spaces : Nat) : Layout := ⟨some (List.replicate spaces ' '), false⟩

def unitEscape (n : Nat) : List Char := '\\' :: 'u' :: hexDigits 4 n

def escapeChar (asciiOnly : Bool) (c : Char) : List Char :=
  if c = '"' then ['\\', '"']
  else if c = '\\' then ['\\', '\\']
  else if c = '\n' then ['\\', 'n']
  else if c = '\r' then ['\\', 'r']
  else if c = '\t' then ['\\', 't']
  else if c = '\x0c' then ['\\', 'f']
  else if c = '\x08' then ['\\', 'b']
  else if c.toNat < 0x20 then unitEscape c.toNat
  else if asciiOnly && 0x7E < c.toNat then
    if c.toNat < 0x10000 then unitEscape c.toNat
    else
      let n := c.toNat - 0x10000
      unitEscape (0xD800 + n / 0x400) ++ unitEscape (0xDC00 + n % 0x400)
  else [c]

def writtenString (asciiOnly : Bool) (s : String) : List Char :=
  '"' :: s.toList.flatMap (escapeChar asciiOnly) ++ ['"']

/-- What comes before an item at the given depth, or before the closing bracket. -/
def Layout.lineBreak (layout : Layout) (depth : Nat) : List Char :=
  match layout.indent with
  | none => []
  | some step => '\n' :: (List.replicate depth step).flatten

def Layout.separator (layout : Layout) (depth : Nat) : List Char :=
  ',' :: (if layout.indent.isNone then [' '] else layout.lineBreak depth)

mutual

/-- The text of a value at a depth. There is none if it holds something that no document can hold;
the kind of that is the failure. -/
def Value.write (layout : Layout) (depth : Nat) : Value → Except String (List Char)
  | .null => .ok ['n', 'u', 'l', 'l']
  | .bool true => .ok ['t', 'r', 'u', 'e']
  | .bool false => .ok ['f', 'a', 'l', 's', 'e']
  | .int n => .ok (Number.writtenInt n)
  | .real x => .ok (x.written Number.jsonStyle)
  | .text s => .ok (writtenString layout.asciiOnly s)
  | .list [] => .ok ['[', ']']
  | .list (item :: items) => do
    let first ← item.write layout (depth + 1)
    let rest ← writeItems layout (depth + 1) items
    .ok ('[' :: layout.lineBreak (depth + 1) ++ first ++ rest ++ layout.lineBreak depth ++ [']'])
  | .object [] => .ok ['\x7b', '\x7d']
  | .object ((key, value) :: members) => do
    let first ← value.write layout (depth + 1)
    let rest ← writeMembers layout (depth + 1) members
    .ok ('\x7b' :: layout.lineBreak (depth + 1) ++ writtenString layout.asciiOnly key ++
      [':', ' '] ++
      first ++ rest ++ layout.lineBreak depth ++ ['\x7d'])
  | .foreign kind => .error kind

def writeItems (layout : Layout) (depth : Nat) : List Value → Except String (List Char)
  | [] => .ok []
  | item :: items => do
    let first ← item.write layout depth
    let rest ← writeItems layout depth items
    .ok (layout.separator depth ++ first ++ rest)

def writeMembers (layout : Layout) (depth : Nat) : List (String × Value) → Except String (List Char)
  | [] => .ok []
  | (key, value) :: members => do
    let first ← value.write layout depth
    let rest ← writeMembers layout depth members
    .ok (layout.separator depth ++ writtenString layout.asciiOnly key ++ [':', ' '] ++
      first ++ rest)

end

mutual

/-- There is a whole number in the value with more digits than are read. -/
def Value.hasLongNumber : Value → Bool
  | .int n => Number.digitLimit < Number.digitCount n.natAbs
  | .list items => haveLongNumber items
  | .object members => membersHaveLongNumber members
  | _ => false

def haveLongNumber : List Value → Bool
  | [] => false
  | item :: items => item.hasLongNumber || haveLongNumber items

def membersHaveLongNumber : List (String × Value) → Bool
  | [] => false
  | (_, value) :: members => value.hasLongNumber || membersHaveLongNumber members

end

def Value.document (layout : Layout) (v : Value) : Except String (List Char) := v.write layout 0

end ReminderScan.Json
