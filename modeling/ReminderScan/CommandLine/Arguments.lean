import ReminderScan.Text.DecimalDigit
import ReminderScan.Text.Quoted

/-! Reading the arguments of a command by a grammar of options. Options may be shortened as long as
it is clear which one is meant, a value may follow an equals sign, and after `--` there are no
options. What fits nowhere is kept for the caller to complain about. -/

namespace ReminderScan.CommandLine

open Text

inductive OptionKind where
  | help
  | flag
  /-- It takes a value; `check` gives the complaint about one that it does not take. -/
  | value (check : String → Option String)

/-- An option, with all its names. The first one is the name that it is known by. -/
structure OptionSpec where
  key : String
  otherNames : List String := []
  kind : OptionKind

def OptionSpec.names (o : OptionSpec) : List String := o.key :: o.otherNames

def OptionSpec.text (key : String) : OptionSpec := { key, kind := .value fun _ => none }

inductive Positional where
  | none
  | command
  /-- Exactly one, by the name that complaints give it. -/
  | single (name : String)
  | many (name : String)

structure Grammar where
  options : List OptionSpec
  positional : Positional

/-- Why the reading stops early: the help text is asked for, or there is something to complain
about. -/
inductive Stop where
  | help
  | usage (complaint : String)
deriving DecidableEq

/-- An option as it is given: by one of its names, perhaps with a value in the same argument.
`marked` says that an equals sign stands before that value. -/
structure GivenOption where
  spec : OptionSpec
  name : String
  attached : Option (Bool × List Char)

inductive Word where
  | separator
  | plain (text : String)
  /-- It looks like an option; it may be one of another command, or of none. -/
  | option (text : String) (given : Option GivenOption)

def Word.text : Word → String
  | separator => "--"
  | plain text => text
  | option text _ => text

def Word.isOption : Word → Bool
  | option .. => true
  | _ => false

namespace Grammar

def names (g : Grammar) : List (String × OptionSpec) :=
  g.options.flatMap fun o => o.names.map (·, o)

def find? (g : Grammar) (name : String) : Option OptionSpec := g.names.lookup name

/-- The options that an argument may mean. After two hyphens a name may be cut short; after one, the
first letter is the name and the rest a value. -/
def meanings (g : Grammar) (arg : List Char) : List GivenOption :=
  match arg with
  | '-' :: '-' :: _ =>
    let start := arg.takeWhile (· ≠ '=')
    let attached := match arg.dropWhile (· ≠ '=') with
      | _ :: value => some (true, value)
      | [] => none
    (g.names.filter fun n => start.isPrefixOf n.1.toList).map fun n => ⟨n.2, n.1, attached⟩
  | _ =>
    g.names.filterMap fun n =>
      if n.1.toList = arg.take 2 then some ⟨n.2, n.1, some (false, arg.drop 2)⟩
      else if arg.isPrefixOf n.1.toList then some ⟨n.2, n.1, none⟩
      else none

end Grammar

/-- A hyphen with digits and perhaps a point: a value, and no option. A line feed may follow. -/
def isNegativeNumber : List Char → Bool
  | '-' :: body =>
    let body := if body.getLast? = some '\n' then body.dropLast else body
    let rest := body.dropWhile isDecimalDigit
    match rest with
    | [] => !body.isEmpty
    | '.' :: fraction => !fraction.isEmpty && fraction.all isDecimalDigit
    | _ => false
  | _ => false

def classify (g : Grammar) (arg : String) : Except Stop Word :=
  match arg.toList with
  | '-' :: rest =>
    match g.find? arg with
    | some spec => .ok (.option arg (some ⟨spec, arg, none⟩))
    | none =>
      if rest.isEmpty then .ok (.plain arg)
      else
        let cs := arg.toList
        let name := String.ofList (cs.takeWhile (· ≠ '='))
        match cs.dropWhile (· ≠ '='), g.find? name with
        | _ :: value, some spec => .ok (.option arg (some ⟨spec, name, some (true, value)⟩))
        | _, _ =>
          match g.meanings cs with
          | [given] => .ok (.option arg (some given))
          | [] =>
            if isNegativeNumber cs || cs.contains ' ' then .ok (.plain arg)
              else .ok (.option arg none)
          | several =>
            .error (.usage ("ambiguous option: " ++ arg ++ " could match " ++
              ", ".intercalate (several.map (·.name))))
  | _ => .ok (.plain arg)

def classifyAll (g : Grammar) : List String → Except Stop (List Word)
  | [] => .ok []
  | arg :: rest =>
    if arg = "--" then .ok (.separator :: rest.map .plain)
    else do
      let word ← classify g arg
      let words ← classifyAll g rest
      .ok (word :: words)

/-- The arguments that are no options, taken from the start, and what follows them. -/
def Positional.take? (p : Positional) (words : List Word) : Option (List String × List Word) :=
  let (lead, rest) := match words with
    | .separator :: rest => (["--"], rest)
    | words => ([], words)
  match p, rest with
  | .command, .plain text :: rest => some (lead ++ text :: rest.map Word.text, [])
  | .single _, .plain text :: .separator :: rest => some ((lead ++ [text, "--"]).erase "--", rest)
  | .single _, .plain text :: rest => some ((lead ++ [text]).erase "--", rest)
  | .many _, .plain text :: rest =>
    let taken := rest.takeWhile (!·.isOption)
    some ((lead ++ text :: taken.map Word.text).erase "--", rest.dropWhile (!·.isOption))
  | _, _ => Option.none

/-- What was read: the options in order by their keys, the other arguments, and what fits
nowhere. -/
structure Reading where
  options : List (String × String) := []
  values : List String := []
  extras : List String := []

def complaint (o : OptionSpec) (text : String) : Stop :=
  .usage ("argument " ++ "/".intercalate o.names ++ ": " ++ text)

def ignoredValue (o : OptionSpec) (value : List Char) : Stop :=
  complaint o ("ignored explicit argument " ++ String.ofList (quoted value))

def OptionSpec.takesValue (o : OptionSpec) : Bool :=
  match o.kind with
  | .value _ => true
  | _ => false

/-- The options in one argument: one with its value, or several letters in a row. Gives the options
with their values, and what fits nowhere. `value` is what stands after the first option. -/
def cluster (g : Grammar) (spec : OptionSpec) (name : String) (marked : Bool) :
    (value : List Char) → Except Stop (List (OptionSpec × String) × List String)
  | [] =>
    if spec.takesValue then .ok ([(spec, "")], []) else .error (ignoredValue spec [])
  | c :: rest =>
    if spec.takesValue then .ok ([(spec, String.ofList (c :: rest))], [])
    else if name.length ≠ 2 || marked || c = '-' then .error (ignoredValue spec (c :: rest))
    else
      match g.find? (String.ofList ['-', c]), rest with
      | none, _ => .ok ([(spec, "")], [String.ofList ('-' :: c :: rest)])
      | some spec', [] => .ok ([(spec, ""), (spec', "")], [])
      | some spec', '=' :: rest' =>
        (cluster g spec' (String.ofList ['-', c]) true rest').map fun (os, es) =>
          ((spec, "") :: os, es)
      | some spec', rest =>
        (cluster g spec' (String.ofList ['-', c]) false rest).map fun (os, es) =>
          ((spec, "") :: os, es)

/-- The options that an argument gives, what fits nowhere, and the arguments that follow. -/
def follow (g : Grammar) (given : GivenOption) (rest : List Word) :
    Except Stop (List (OptionSpec × String) × List String × List Word) :=
  match given.attached with
  | some (marked, value) =>
    (cluster g given.spec given.name marked value).map fun (os, es) => (os, es, rest)
  | none =>
    match given.spec.kind with
    | .value _ =>
      match rest with
      | .plain text :: rest => .ok ([(given.spec, text)], [], rest)
      | _ => .error (complaint given.spec "expected one argument")
    | _ => .ok ([(given.spec, "")], [], rest)

def record (r : Reading) : List (OptionSpec × String) → Except Stop Reading
  | [] => .ok r
  | (spec, value) :: rest =>
    match spec.kind with
    | .help => .error .help
    | .flag => record { r with options := r.options ++ [(spec.key, value)] } rest
    | .value check =>
      match check value with
      | some text => .error (complaint spec text)
      | none => record { r with options := r.options ++ [(spec.key, value)] } rest

/-- Reads arguments by their forms. `pending` says that the arguments which are no options are still
to come. Each step takes at least one argument and uses one unit of fuel. -/
def readWords (g : Grammar) : (fuel : Nat) → (pending : Bool) → Reading → List Word →
    Except Stop (Bool × Reading)
  | 0, pending, r, _ => .ok (pending, r)
  | fuel + 1, pending, r, words =>
    match words with
    | [] => .ok (pending, r)
    | .option text none :: rest =>
      readWords g fuel pending { r with extras := r.extras ++ [text] } rest
    | .option _ (some given) :: rest => do
      let (options, extras, rest) ← follow g given rest
      let r ← record r options
      readWords g fuel pending { r with extras := r.extras ++ extras } rest
    | words =>
      match if pending then g.positional.take? words else Option.none with
      | some (values, rest) => readWords g fuel false { r with values } rest
      | none =>
        readWords g fuel pending
          { r with extras := r.extras ++ (words.takeWhile (!·.isOption)).map Word.text }
          (words.dropWhile (!·.isOption))

def Grammar.read (g : Grammar) (args : List String) : Except Stop Reading := do
  let words ← classifyAll g args
  let (pending, r) ← readWords g (words.length + 1) true {} words
  match pending, g.positional with
  | true, .single name => .error (.usage ("the following arguments are required: " ++ name))
  | true, .many name => .error (.usage ("the following arguments are required: " ++ name))
  | _, _ => .ok r

namespace Reading

def has (r : Reading) (key : String) : Bool := r.options.any (·.1 = key)

def all (r : Reading) (key : String) : List String :=
  r.options.filterMap fun o => if o.1 = key then some o.2 else none

def last? (r : Reading) (key : String) : Option String := (r.all key).getLast?

end Reading
end ReminderScan.CommandLine
