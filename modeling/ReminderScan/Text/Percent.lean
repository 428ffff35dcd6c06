import ReminderScan.Text.DecimalDigit
import ReminderScan.Text.Quoted

/-! Texts with placeholders. A percent sign, the name of a value in brackets, flags, a width, a
precision and a letter stand for the value as it is shown; a doubled percent sign stands for
itself. -/

namespace ReminderScan.Text.Percent

inductive Misuse where
  /-- It breaks off, asks for too much room or has an unknown letter. -/
  | badForm
  /-- No value has this name. -/
  | noMember (name : String)
  /-- The value is of another kind than the letter asks for, or there is none left. -/
  | badValue
deriving DecidableEq, Repr

def Misuse.message : Misuse → String
  | badForm => "unsupported format character"
  | noMember name => quote name
  | badValue => "not enough arguments for format string"

inductive Argument where
  | text (s : String)
  /-- The truth value that counts as the number zero. -/
  | no
  /-- A value of which only the form is known in which it is shown. -/
  | shown (form : String)

namespace Argument

def plain : Argument → List Char
  | text s => s.toList
  | no => "False".toList
  | shown form => form.toList

def quoted : Argument → List Char
  | text s => Text.quoted s.toList
  | no => "False".toList
  | shown form => form.toList

end Argument

def shownMembers (members : List (String × Argument)) : List Char :=
  let shown := members.map fun m => Text.quoted m.1.toList ++ ':' :: ' ' :: m.2.quoted
  '\x7b' :: List.intercalate [',', ' '] shown ++ ['\x7d']

def asciiChar (c : Char) : List Char :=
  if c.toNat < 0x80 then [c]
  else if c.toNat < 0x100 then '\\' :: 'x' :: hexDigits 2 c.toNat
  else if c.toNat < 0x10000 then '\\' :: 'u' :: hexDigits 4 c.toNat
  else '\\' :: 'U' :: hexDigits 8 c.toNat

structure Form where
  flags : List Char
  width : Nat
  precision : Option Nat

namespace Form

def has (f : Form) (flag : Char) : Bool := f.flags.contains flag

def fill (f : Form) (c : Char) (used : Nat) : List Char := List.replicate (f.width - used) c

def padded (f : Form) (text : List Char) : List Char :=
  if f.has '-' then text ++ f.fill ' ' text.length else f.fill ' ' text.length ++ text

/-- A text, cut off where the precision says so. -/
def ofText (f : Form) (text : List Char) : List Char :=
  f.padded (match f.precision with | none => text | some n => text.take n)

/-- A number by what stands before its digits and by the rest, which zeros may part. -/
def ofNumber (f : Form) (before digits : List Char) : List Char :=
  let sign := if f.has '+' then ['+'] else if f.has ' ' then [' '] else []
  let front := sign ++ before
  if f.has '0' && !f.has '-' then front ++ f.fill '0' (front.length + digits.length) ++ digits
  else f.padded (front ++ digits)

def ofWhole (f : Form) (before : List Char) : List Char :=
  f.ofNumber (if f.has '#' then before else []) (List.replicate (max 1 (f.precision.getD 1)) '0')

/-- Zero and this many digits behind the point, which stands only before digits unless it is asked
for. -/
def ofReal (f : Form) (places : Nat) (power : List Char) : List Char :=
  f.ofNumber []
    ('0' :: (if places = 0 && !f.has '#' then [] else '.' :: List.replicate places '0') ++ power)

def zero? (f : Form) : Char → Option (List Char)
  | 'd' => some (f.ofWhole [])
  | 'i' => some (f.ofWhole [])
  | 'u' => some (f.ofWhole [])
  | 'o' => some (f.ofWhole ['0', 'o'])
  | 'x' => some (f.ofWhole ['0', 'x'])
  | 'X' => some (f.ofWhole ['0', 'X'])
  | 'e' => some (f.ofReal (f.precision.getD 6) ['e', '+', '0', '0'])
  | 'E' => some (f.ofReal (f.precision.getD 6) ['E', '+', '0', '0'])
  | 'f' => some (f.ofReal (f.precision.getD 6) [])
  | 'F' => some (f.ofReal (f.precision.getD 6) [])
  | 'g' => some (f.ofReal (if f.has '#' then f.precision.getD 6 - 1 else 0) [])
  | 'G' => some (f.ofReal (if f.has '#' then f.precision.getD 6 - 1 else 0) [])
  | 'c' => some (f.padded ['\x00'])
  | _ => none

/-- A text of one character is taken for the character. -/
def char? : Argument → Option Char
  | .text s => match s.toList with | [c] => some c | _ => none
  | _ => none

def apply (f : Form) (letter : Char) (v : Argument) : Except Misuse (List Char) :=
  match letter with
  | 's' => .ok (f.ofText v.plain)
  | 'r' => .ok (f.ofText v.quoted)
  | 'a' => .ok (f.ofText (v.quoted.flatMap asciiChar))
  | _ =>
    match f.zero? letter with
    | none => .error .badForm
    | some zero =>
      match v with
      | .no => .ok zero
      | v =>
        match letter, char? v with
        | 'c', some c => .ok (f.padded [c])
        | _, _ => .error .badValue

end Form

/-- A name up to the bracket that closes it. Brackets within it are `depth` deep. -/
def readName (depth : Nat) : List Char → Except Misuse (List Char × List Char)
  | [] => .error .badForm
  | ')' :: rest =>
    match depth with
    | 0 => .ok ([], rest)
    | depth + 1 => (readName depth rest).map fun (name, rest) => (')' :: name, rest)
  | '(' :: rest => (readName (depth + 1) rest).map fun (name, rest) => ('(' :: name, rest)
  | c :: rest => (readName depth rest).map fun (name, rest) => (c :: name, rest)

/-- A number up to a limit, or a star, for which the value at hand is taken. -/
def readCount (limit : Nat) (held : Option Argument) (text : List Char) :
    Except Misuse (Nat × Option Argument × List Char) :=
  match text, held with
  | '*' :: rest, some .no => .ok (0, none, rest)
  | '*' :: _, _ => .error .badValue
  | _, _ =>
    let count := digitsValue (text.takeWhile isAsciiDigit)
    if limit < count then .error .badForm
    else .ok (count, held, text.dropWhile isAsciiDigit)

def isFlag (c : Char) : Bool := c = '-' || c = '+' || c = ' ' || c = '#' || c = '0'

def widthLimit : Nat := 9223372036854775807

def precisionLimit : Nat := 2147483647

/-- A placeholder behind its percent sign: the value that it stands for as it is shown, and what is
left of the text. `held` is the value that is taken if none is named. -/
def readPlaceholder (members : List (String × Argument)) (held : Option Argument)
    (text : List Char) :
    Except Misuse (List Char × List Char) := do
  let (held, text) ← match text with
    | '(' :: rest => do
      let (name, rest) ← readName 0 rest
      match members.lookup (String.ofList name) with
      | none => .error (.noMember (String.ofList name))
      | some v => .ok (some v, rest)
    | text => .ok (held, text)
  let flags := text.takeWhile isFlag
  let (width, held, text) ← readCount widthLimit held (text.dropWhile isFlag)
  let (precision, held, text) ← match text with
    | '.' :: rest => (readCount precisionLimit held rest).map fun (n, held, rest) =>
      (some n, held, rest)
    | text => .ok (none, held, text)
  let text := match text with
    | c :: rest => if c = 'h' || c = 'l' || c = 'L' then rest else text
    | [] => []
  match text, held with
  | [], _ => .error .badForm
  | _ :: _, none => .error .badValue
  | letter :: rest, some v => ((⟨flags, width, precision⟩ : Form).apply letter v).map (·, rest)

/-- A text with its placeholders filled, apart from what is skipped at its start. The values
together are at hand for the first placeholder that names none. -/
def fill (members : List (String × Argument)) : (skipped : Nat) → (held : Option Argument) →
    List Char → Except Misuse (List Char)
  | _, _, [] => .ok []
  | n + 1, held, _ :: rest => fill members n held rest
  | 0, held, '%' :: '%' :: rest => (fill members 0 held rest).map ('%' :: ·)
  | 0, held, '%' :: rest =>
    match readPlaceholder members held rest with
    | .error e => .error e
    | .ok (shown, after) =>
      (fill members (rest.length - after.length) none rest).map (shown ++ ·)
  | 0, held, c :: rest => (fill members 0 held rest).map (c :: ·)

def format (members : List (String × Argument)) (text : List Char) : Except Misuse (List Char) :=
  fill members 0 (some (.shown (String.ofList (shownMembers members)))) text

end ReminderScan.Text.Percent
