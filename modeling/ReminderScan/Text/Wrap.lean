import ReminderScan.Text.Blank
import ReminderScan.Text.DecimalDigit
import ReminderScan.Text.Letter

/-! Filling lines of a given width with the words of a text. A word may be broken after a hyphen
between letters, and one that is longer than a line is broken where the line ends. -/

namespace ReminderScan.Text

def isWordLetter (c : Char) : Bool := isLetter c || c = '_'

def isWordChar (c : Char) : Bool := isWordLetter c || isDecimalDigit c

/-- A character of a word or a mark that stands next to words. -/
def isWordMark (c : Char) : Bool :=
  isWordChar c || c = '!' || c = '"' || c = '\'' || c = '&' || c = '.' || c = ',' || c = '?'

def isGap (c : Char) : Bool := (9 ≤ c.toNat && c.toNat ≤ 13) || c = ' '

/-- Every row of gaps written as one space. `inGap` says that a gap was just written. -/
def collapseGapsFrom (inGap : Bool) : List Char → List Char
  | [] => []
  | c :: rest =>
    if isGap c then if inGap then collapseGapsFrom true rest else ' ' :: collapseGapsFrom true rest
    else c :: collapseGapsFrom false rest

def collapseGaps (text : List Char) : List Char := collapseGapsFrom false text

/-- A dash of at least two hyphens stands here, and a word follows it. -/
def startsDash (text : List Char) : Bool :=
  match text with
  | '-' :: '-' :: _ =>
    match text.dropWhile (· = '-') with
    | c :: _ => isWordChar c
    | [] => false
  | _ => false

/-- The text starts with two letters, which one hyphen may part. -/
def startsWithTwoLetters : List Char → Bool
  | a :: '-' :: b :: _ => isWordLetter a && isWordLetter b
  | a :: b :: _ => isWordLetter a && isWordLetter b
  | _ => false

/-- A hyphen may end a line between these texts; the one before it stands in reverse. -/
def breaksAfterHyphen (before after : List Char) : Bool :=
  startsWithTwoLetters before && startsWithTwoLetters after

/-- The rest of a piece of which at least one character is taken. `before` is all the text up to
here, in reverse. -/
def restOfPiece (before : List Char) : List Char → List Char × List Char
  | [] => ([], [])
  | c :: rest =>
    if c = '-' && breaksAfterHyphen before rest then (['-'], rest)
    else if isGap c then ([], c :: rest)
    else if (match before with | b :: _ => isWordMark b | [] => false) &&
      startsDash (c :: rest) then
      ([], c :: rest)
    else
      let (piece, rest) := restOfPiece (c :: before) rest
      (c :: piece, rest)

/-- The pieces that a text may be broken into: gaps, dashes and parts of words. Each step uses one
unit of fuel. -/
def piecesOfText : (fuel : Nat) → (before : List Char) → List Char → List (List Char)
  | 0, _, _ => []
  | _ + 1, _, [] => []
  | fuel + 1, before, c :: rest =>
    let (piece, rest) :=
      if isGap c then ((c :: rest).takeWhile isGap, (c :: rest).dropWhile isGap)
      else if (match before with | b :: _ => isWordMark b | [] => false) &&
        startsDash (c :: rest) then
        ((c :: rest).takeWhile (· = '-'), (c :: rest).dropWhile (· = '-'))
      else
        let (piece, rest) := restOfPiece (c :: before) rest
        (c :: piece, rest)
    piece :: piecesOfText fuel (piece.reverse ++ before) rest

def takeFitting (width : Nat) : List (List Char) → List (List Char) × List (List Char)
  | [] => ([], [])
  | piece :: rest =>
    if piece.length ≤ width then
      let (line, others) := takeFitting (width - piece.length) rest
      (piece :: line, others)
    else ([], piece :: rest)

/-- How much of a piece that is longer than a line goes into the space left: up to the last hyphen,
or all that fits. -/
def longPieceEnd (space : Nat) (piece : List Char) : Nat :=
  let head := (piece.take space).reverse.dropWhile (· ≠ '-')
  match head with
  | '-' :: before => if before.any (· ≠ '-') then head.length else space
  | _ => space

def dropLastBlank (line : List (List Char)) : List (List Char) :=
  match line.getLast? with
  | some piece => if piece.all isBlank then line.dropLast else line
  | none => line

/-- Lines filled from pieces. Each line uses one unit of fuel. -/
def fillLines (width : Nat) : (fuel : Nat) → (first : Bool) → List (List Char) → List (List Char)
  | 0, _, _ => []
  | _ + 1, _, [] => []
  | fuel + 1, first, piece :: rest =>
    let pieces := if !first && piece.all isBlank then rest else piece :: rest
    let (line, others) := takeFitting width pieces
    let (line, others) :=
      match others with
      | long :: others' =>
        if width < long.length then
          let cut := longPieceEnd (width - (line.map List.length).sum) long
          (line ++ [long.take cut], long.drop cut :: others')
        else (line, others)
      | [] => (line, [])
    let text := (dropLastBlank line).flatten
    if text.isEmpty then fillLines width fuel first others
    else text :: fillLines width fuel false others

def wrap (width : Nat) (text : List Char) : List (List Char) :=
  let text := collapseGaps text
  fillLines width (2 * text.length + 1) true (piecesOfText text.length [] text)

end ReminderScan.Text
