/-! Paths as text: names separated by slashes. Nothing here looks at files. -/

namespace ReminderScan.Path

def baseNameChars (path : List Char) : List Char := (path.reverse.takeWhile (· ≠ '/')).reverse

def baseName (path : String) : String := String.ofList (baseNameChars path.toList)

/-- The path that contains the last name, without slashes at its end unless it is all slashes. -/
def parentChars (path : List Char) : List Char :=
  let head := (path.reverse.dropWhile (· ≠ '/')).reverse
  if head.all (· = '/') then head else (head.reverse.dropWhile (· = '/')).reverse

def parent (path : String) : String := String.ofList (parentChars path.toList)

/-- The text after the last dot of a name, if there is a dot behind a character that is none. The
dots that a name starts with begin no extension. -/
def extension? (name : List Char) : Option (List Char) :=
  let body := name.dropWhile (· = '.')
  if body.contains '.' then some (body.reverse.takeWhile (· ≠ '.')).reverse else none

/-- A path after another; an absolute path stands for itself. -/
def join (before path : List Char) : List Char :=
  if path.head? = some '/' then path
  else if before.isEmpty || before.getLast? = some '/' then before ++ path
  else before ++ '/' :: path

/-- How many slashes a path keeps at its start: none, one, or exactly two. -/
def leadingSlashes : List Char → Nat
  | '/' :: '/' :: '/' :: _ => 1
  | '/' :: '/' :: _ => 2
  | '/' :: _ => 1
  | _ => 0

/-- The names that are left when empty names and single dots are dropped and each pair of dots takes
away the name before it. Above the root there is nothing to take away; a path that does not start at
the root keeps the pairs it starts with. The names kept so far stand in reverse. -/
def settle (rooted : Bool) (kept : List (List Char)) : List (List Char) → List (List Char)
  | [] => kept.reverse
  | name :: rest =>
    if name = [] || name = ['.'] then settle rooted kept rest
    else if name = ['.', '.'] then
      match kept with
      | [] => if rooted then settle rooted [] rest else settle rooted [name] rest
      | last :: before =>
        if last = ['.', '.'] then settle rooted (name :: kept) rest else settle rooted before rest
    else settle rooted (name :: kept) rest

/-- The shortest text for the same path, read without regard to links. -/
def normalise (path : List Char) : List Char :=
  let slashes := leadingSlashes path
  let body := List.intercalate ['/'] (settle (slashes ≠ 0) [] (path.splitOn '/'))
  let text := List.replicate slashes '/' ++ body
  if text.isEmpty then ['.'] else text

/-- The path from the root on, seen from a directory. It is kept closed, for no proof is to compute
paths on its way. -/
@[irreducible]
def absolute (directory path : String) : String :=
  String.ofList (normalise (join directory.toList path.toList))

/-- A path as its slashes at the start and its names. Single dots and doubled slashes are gone,
pairs of dots are kept. -/
structure Names where
  slashes : Nat
  names : List String
deriving DecidableEq

namespace Names

def ofText (path : String) : Names :=
  ⟨leadingSlashes path.toList,
    ((path.toList.splitOn '/').filter fun name => name ≠ [] && name ≠ ['.']).map String.ofList⟩

/-- The path in writing; the empty one is a dot. -/
def text (p : Names) : String :=
  let body := List.replicate p.slashes '/' ++ List.intercalate ['/'] (p.names.map String.toList)
  if body.isEmpty then "." else String.ofList body

/-- The containing path; the root and the empty path contain themselves. -/
def parent (p : Names) : Names := { p with names := p.names.dropLast }

def child (p : Names) (name : String) : Names := { p with names := p.names ++ [name] }

end Names
end ReminderScan.Path
