import ReminderScan.Text.DecimalDigit

/-! Readers of texts that are written after a format: one value behind the other, with a character
between. What a reader takes it does not give back, since no character between is one that a number
can end in. -/

namespace ReminderScan.Text

/-- Takes a value from the start of a text and leaves the rest. -/
abbrev Reader (α : Type) := List Char → Option (α × List Char)

namespace Reader

variable {α β : Type}

/-- Reads a number: two characters that may stand together, else one that may stand alone. -/
def upToTwo (together : Char → Char → Bool) (alone : Char → Bool) : Reader Nat
  | a :: b :: rest =>
    if together a b then some (digitsValue [a, b], rest)
    else if alone a then some (digitsValue [a], b :: rest) else none
  | [a] => if alone a then some (digitsValue [a], []) else none
  | [] => none

def around (between : Char) (first : Reader α) (second : Reader β) : Reader (α × β) := fun text =>
  match first text with
  | some (a, c :: rest) =>
    if c = between then (second rest).map fun (b, left) => ((a, b), left) else none
  | _ => none

/-- The value of a text of which nothing is left over. -/
def whole (read : Reader α) (text : List Char) : Option α :=
  match read text with
  | some (a, []) => some a
  | _ => none

end Reader
end ReminderScan.Text
