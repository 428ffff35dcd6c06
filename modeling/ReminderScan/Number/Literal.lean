import ReminderScan.Number.Decimal
import ReminderScan.Text.Blank
import ReminderScan.Text.DecimalDigit

/-! Numbers that people write: blanks around them, digits of any script, single underscores between
digits, and the words for the special values in any case. -/

namespace ReminderScan.Number

open Text

/-- The text in ASCII: digits of other scripts by value, their blanks as spaces, and a mark that no
number holds for the rest. -/
def asciiForm (text : List Char) : List Char :=
  text.map fun c =>
    if c.toNat < 127 then c
    else if isBlank c then ' '
    else match digitValue? c with
      | some v => Nat.digitChar v
      | none => '?'

def isAsciiSpace (c : Char) : Bool := (9 ≤ c.toNat && c.toNat ≤ 13) || c = ' '

/-- The text without its underscores, if each stands between two digits. -/
def dropUnderscores (previous : Char) : List Char → Option (List Char)
  | [] => if previous = '_' then none else some []
  | c :: rest =>
    if c = '_' then if isAsciiDigit previous then dropUnderscores c rest else none
    else if previous = '_' && !isAsciiDigit c then none
    else (dropUnderscores c rest).map (c :: ·)

def readSign : List Char → Bool × List Char
  | '-' :: rest => (true, rest)
  | '+' :: rest => (false, rest)
  | rest => (false, rest)

/-- The exponent at the end of a number: nothing, or `e`, a sign and digits. -/
def readExponent? : List Char → Option Int
  | [] => some 0
  | c :: rest =>
    if c = 'e' || c = 'E' then
      let (negative, ds) := readSign rest
      if ds.isEmpty || !ds.all isAsciiDigit then none
      else some (if negative then -(digitsValue ds : Int) else digitsValue ds)
    else none

def readDecimal? (negative : Bool) (text : List Char) : Option Decimal :=
  let whole := text.takeWhile isAsciiDigit
  let rest := text.dropWhile isAsciiDigit
  let (fraction, rest) := match rest with
    | '.' :: rest => (rest.takeWhile isAsciiDigit, rest.dropWhile isAsciiDigit)
    | rest => ([], rest)
  if whole.isEmpty && fraction.isEmpty then none
  else (readExponent? rest).map fun e =>
    ⟨negative, digitsValue (whole ++ fraction), e - fraction.length⟩

def readReal? (text : List Char) : Option Binary64 := do
  let text ← dropUnderscores ' ' (stripBoth isAsciiSpace (asciiForm text))
  let (negative, body) := readSign text
  let word := body.map Char.toLower
  if word = ['n', 'a', 'n'] then some .nan
  else if word = ['i', 'n', 'f'] || word = ['i', 'n', 'f', 'i', 'n', 'i', 't', 'y'] then
    some (.infinite negative)
  else (readDecimal? negative body).map Decimal.round

def digitLimit : Nat := 4300

def readInteger? (text : List Char) : Option Int := do
  let (negative, body) := readSign (stripBoth isAsciiSpace (asciiForm text))
  let ds ← dropUnderscores ' ' body
  if ds.isEmpty || !ds.all isAsciiDigit || digitLimit < ds.length then none
  else some (if negative then -(digitsValue ds : Int) else digitsValue ds)

end ReminderScan.Number
