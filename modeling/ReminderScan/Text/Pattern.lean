/-! Patterns of text and the way they are tried. A repetition takes as many characters as there are
and gives them back one by one where nothing follows; an optional part is left out only where
nothing follows it. The first way that succeeds is the match. -/

namespace ReminderScan.Text

/-- A pattern. A group keeps the text that its part matches, under a number. -/
inductive Pattern where
  | nothing
  | one (kind : Char → Bool)
  | many (kind : Char → Bool)
  | both (first second : Pattern)
  | optional (part : Pattern)
  | group (number : Nat) (part : Pattern)

/-- The texts of the groups so far, the latest first. -/
abbrev Groups := List (Nat × List Char)

namespace Pattern

def sequence (parts : List Pattern) : Pattern := parts.foldr both nothing

def literal (text : List Char) : Pattern := sequence (text.map fun c => one (· = c))

def times (n : Nat) (kind : Char → Bool) : Pattern := sequence (List.replicate n (one kind))

def some (kind : Char → Bool) : Pattern := both (one kind) (many kind)

/-- Takes characters of a kind, as many as there are and then fewer, until `next` accepts the
rest. -/
def attemptMany {α : Type} (kind : Char → Bool) (next : List Char → Option α) :
    List Char → Option α
  | [] => next []
  | c :: rest =>
    if kind c then attemptMany kind next rest <|> next (c :: rest) else next (c :: rest)

/-- Tries the ways to match at the start of a text, until `next` accepts the groups and the rest. -/
def attempt {α : Type} : Pattern → Groups → List Char → (Groups → List Char → Option α) → Option α
  | nothing, groups, text, next => next groups text
  | one kind, groups, text, next =>
    match text with
    | c :: rest => if kind c then next groups rest else none
    | [] => none
  | many kind, groups, text, next => attemptMany kind (next groups) text
  | both first second, groups, text, next =>
    first.attempt groups text fun groups rest => second.attempt groups rest next
  | optional part, groups, text, next => part.attempt groups text next <|> next groups text
  | group number part, groups, text, next =>
    part.attempt groups text fun groups rest =>
      next ((number, text.take (text.length - rest.length)) :: groups) rest

def match? (p : Pattern) (text : List Char) : Option Groups :=
  p.attempt [] text fun groups _ => .some groups

/-- A match at the start of a text can stop where what is left is one of these ends. -/
def matchesTo (ends : List Char → Bool) (p : Pattern) (text : List Char) : Bool :=
  (p.attempt [] text fun _ rest => if ends rest then .some () else none).isSome

def search? (p : Pattern) : List Char → Option (Groups × List Char)
  | [] => none
  | c :: rest =>
    match p.match? (c :: rest) with
    | .some groups => .some (groups, rest)
    | none => p.search? rest

theorem length_lt_of_search? {p : Pattern} {text rest : List Char} {groups : Groups}
    (h : p.search? text = .some (groups, rest)) : rest.length < text.length := by
  induction text with
  | nil => simp [search?] at h
  | cons c text ih =>
    simp only [search?] at h
    split at h
    · simp only [Option.some.injEq, Prod.mk.injEq] at h
      simp [h.2]
    · have := ih h
      simp only [List.length_cons]
      omega

end Pattern
end ReminderScan.Text
