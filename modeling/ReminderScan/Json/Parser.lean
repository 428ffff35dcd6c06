import ReminderScan.Json.Value
import ReminderScan.Number.Literal

/-! Reading documents. Besides the values of the standard the words `NaN`, `Infinity` and
`-Infinity` are read; a member that is given twice has its last value. -/

namespace ReminderScan.Json

open Text Number

inductive Defect where
  | malformed
  /-- A whole number has this many digits, more than are read. -/
  | tooManyDigits (count : Nat)
  /-- A string is written with half of a pair of units. It is read, but no text here can hold it. -/
  | halfPair
deriving DecidableEq, Repr

def isSpace (c : Char) : Bool := c = ' ' || c = '\t' || c = '\n' || c = '\r'

def skipSpace (text : List Char) : List Char := text.dropWhile isSpace

def hexValue? (c : Char) : Option Nat :=
  if '0' ≤ c ∧ c ≤ '9' then some (c.toNat - 48)
  else if 'a' ≤ c ∧ c ≤ 'f' then some (c.toNat - 87)
  else if 'A' ≤ c ∧ c ≤ 'F' then some (c.toNat - 55)
  else none

def hexUnit? (a b c d : Char) : Option Nat := do
  let a ← hexValue? a
  let b ← hexValue? b
  let c ← hexValue? c
  let d ← hexValue? d
  some (((a * 16 + b) * 16 + c) * 16 + d)

def simpleEscape? : Char → Option Char
  | '"' => some '"'
  | '\\' => some '\\'
  | '/' => some '/'
  | 'b' => some '\x08'
  | 'f' => some '\x0c'
  | 'n' => some '\n'
  | 'r' => some '\r'
  | 't' => some '\t'
  | _ => none

/-- One unit of a code point past the first plane. -/
def isHighUnit (n : Nat) : Bool := 0xD800 ≤ n && n < 0xDC00

def isLowUnit (n : Nat) : Bool := 0xDC00 ≤ n && n < 0xE000

/-- Reads the rest of a string after its opening mark, the closing mark included. `pending` is the
first unit of a code point past the first plane, if that was just read; the other one has to
follow. -/
def readString (pending : Option Nat) : List Char → Except Defect (List Char × List Char)
  | '"' :: rest => if pending.isSome then .error .halfPair else .ok ([], rest)
  | '\\' :: 'u' :: a :: b :: c :: d :: rest =>
    match hexUnit? a b c d with
    | none => .error .malformed
    | some n =>
      match pending with
      | some high =>
        if isLowUnit n then
          (readString none rest).map fun (cs, rest) =>
            (Char.ofNat (0x10000 + (high - 0xD800) * 0x400 + (n - 0xDC00)) :: cs, rest)
        else .error .halfPair
      | none =>
        if isHighUnit n then readString (some n) rest
        else if isLowUnit n then .error .halfPair
        else (readString none rest).map fun (cs, rest) => (Char.ofNat n :: cs, rest)
  | '\\' :: e :: rest =>
    match simpleEscape? e with
    | none => .error .malformed
    | some c =>
      if pending.isSome then .error .halfPair
      else (readString none rest).map fun (cs, rest) => (c :: cs, rest)
  | c :: rest =>
    if c = '\\' || c.toNat < 0x20 then .error .malformed
    else if pending.isSome then .error .halfPair
    else (readString none rest).map fun (cs, rest) => (c :: cs, rest)
  | [] => .error .malformed

def readFraction : List Char → List Char × List Char
  | '.' :: c :: rest =>
    if isAsciiDigit c then
      ((c :: rest).takeWhile isAsciiDigit, (c :: rest).dropWhile isAsciiDigit)
    else ([], '.' :: c :: rest)
  | rest => ([], rest)

def readPower (text : List Char) : Option Int × List Char :=
  match text with
  | e :: rest =>
    if e = 'e' || e = 'E' then
      let (negative, digits) := readSign rest
      let ds := digits.takeWhile isAsciiDigit
      if ds.isEmpty then (none, text)
      else
        (some (if negative then -(digitsValue ds : Int) else digitsValue ds),
          digits.dropWhile isAsciiDigit)
    else (none, text)
  | [] => (none, [])

/-- The digits of a whole number: one zero, or digits that do not start with a zero. -/
def readWhole : List Char → List Char × List Char
  | '0' :: rest => (['0'], rest)
  | text => (text.takeWhile isAsciiDigit, text.dropWhile isAsciiDigit)

def readNumber (negative : Bool) (text : List Char) : Except Defect (Value × List Char) :=
  let (whole, rest) := readWhole text
  if whole.isEmpty then .error .malformed
  else
    let (fraction, rest) := readFraction rest
    let (power, rest) := readPower rest
    if fraction.isEmpty && power.isNone then
      if digitLimit < whole.length then .error (.tooManyDigits whole.length)
      else .ok (.int (if negative then -(digitsValue whole : Int) else digitsValue whole), rest)
    else
      .ok (.real (Decimal.round
        ⟨negative, digitsValue (whole ++ fraction), power.getD 0 - fraction.length⟩), rest)

def readWord? : List Char → Option (Value × List Char)
  | 'n' :: 'u' :: 'l' :: 'l' :: rest => some (.null, rest)
  | 't' :: 'r' :: 'u' :: 'e' :: rest => some (.bool true, rest)
  | 'f' :: 'a' :: 'l' :: 's' :: 'e' :: rest => some (.bool false, rest)
  | 'N' :: 'a' :: 'N' :: rest => some (.real .nan, rest)
  | 'I' :: 'n' :: 'f' :: 'i' :: 'n' :: 'i' :: 't' :: 'y' :: rest =>
    some (.real (.infinite false), rest)
  | '-' :: 'I' :: 'n' :: 'f' :: 'i' :: 'n' :: 'i' :: 't' :: 'y' :: rest =>
    some (.real (.infinite true), rest)
  | _ => none

mutual

/-- Reads a value at the start of a text. Each step uses one unit of fuel, and as many units as the
text has characters are enough. -/
def readValue : (fuel : Nat) → List Char → Except Defect (Value × List Char)
  | 0, _ => .error .malformed
  | fuel + 1, text =>
    match text with
    | '"' :: rest => (readString none rest).map fun (cs, rest) => (.text (String.ofList cs), rest)
    | '[' :: rest =>
      match skipSpace rest with
      | ']' :: rest => .ok (.list [], rest)
      | rest => (readItems fuel rest).map fun (items, rest) => (.list items, rest)
    | '\x7b' :: rest =>
      match skipSpace rest with
      | '\x7d' :: rest => .ok (.object [], rest)
      | rest => (readMembers fuel [] rest).map fun (members, rest) => (.object members, rest)
    | _ =>
      match readWord? text with
      | some found => .ok found
      | none =>
        match text with
        | '-' :: rest => readNumber true rest
        | _ => readNumber false text

def readItems : (fuel : Nat) → List Char → Except Defect (List Value × List Char)
  | 0, _ => .error .malformed
  | fuel + 1, text => do
    let (item, rest) ← readValue fuel text
    match skipSpace rest with
    | ']' :: rest => .ok ([item], rest)
    | ',' :: rest =>
      let (items, rest) ← readItems fuel (skipSpace rest)
      .ok (item :: items, rest)
    | _ => .error .malformed

/-- Reads the members of an object and its closing bracket, in addition to those read before. -/
def readMembers : (fuel : Nat) → List (String × Value) → List Char →
    Except Defect (List (String × Value) × List Char)
  | 0, _, _ => .error .malformed
  | fuel + 1, before, text =>
    match text with
    | '"' :: rest => do
      let (key, rest) ← readString none rest
      match skipSpace rest with
      | ':' :: rest => do
        let (value, rest) ← readValue fuel (skipSpace rest)
        let members := assign (String.ofList key) value before
        match skipSpace rest with
        | '\x7d' :: rest => .ok (members, rest)
        | ',' :: rest => readMembers fuel members (skipSpace rest)
        | _ => .error .malformed
      | _ => .error .malformed
    | _ => .error .malformed

end

def readDocument (text : List Char) : Except Defect Value := do
  let (value, rest) ← readValue (text.length + 1) (skipSpace text)
  if (skipSpace rest).isEmpty then .ok value else .error .malformed

/-- The text with no half of a pair in it: zeros stand for the first digits of their numbers. -/
def withoutUnits : List Char → List Char
  | '\\' :: 'u' :: 'd' :: rest => '\\' :: 'u' :: '0' :: withoutUnits rest
  | '\\' :: 'u' :: 'D' :: rest => '\\' :: 'u' :: '0' :: withoutUnits rest
  | c :: rest => c :: withoutUnits rest
  | [] => []

/-- The value of a document. Half of a pair is told only if nothing else is wrong. -/
def parse (text : List Char) : Except Defect Value :=
  match readDocument text with
  | .error .halfPair => readDocument (withoutUnits text) >>= fun _ => .error .halfPair
  | found => found

end ReminderScan.Json
