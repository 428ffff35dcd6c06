import ReminderScan.Json.Value
import ReminderScan.Number.Written
import ReminderScan.Text.Percent
import ReminderScan.Text.Utf8

/-! Everything that can go wrong, by cause, and the words for each. -/

namespace ReminderScan

open Text

inductive SystemError where
  | notFound
  | busy
  | alreadyExists
  | notDirectory
  | isDirectory
  | nameTooLong
  | tooManyLinks
deriving DecidableEq, Repr

def SystemError.code : SystemError → Nat
  | notFound => 2
  | busy => 16
  | alreadyExists => 17
  | notDirectory => 20
  | isDirectory => 21
  | nameTooLong => 36
  | tooManyLinks => 40

def SystemError.description : SystemError → String
  | notFound => "No such file or directory"
  | busy => "Device or resource busy"
  | alreadyExists => "File exists"
  | notDirectory => "Not a directory"
  | isDirectory => "Is a directory"
  | nameTooLong => "File name too long"
  | tooManyLinks => "Too many levels of symbolic links"

inductive Fault where
  /-- The file system refused a path, or the move of a path to another. -/
  | system (error : SystemError) (path : String) (target : Option String)
  | nullByte
  /-- The current directory is asked for and is gone. -/
  | noDirectory
  | undecodable (cause : Utf8.Malformed)
  /-- A document could not be read, for the reason given. -/
  | unreadable (path reason : String)
  /-- The default time is none; `shown` is how it was given. -/
  | invalidDefaultTime (shown : String)
  /-- The time between two looks is zero or less. -/
  | invalidInterval
  | noWorkspace (root : String)
  | noAttribute (kind name : String)
  | notIterable (kind : String)
  | notPath (kind : String)
  | notNumber (kind : String)
  /-- A value of this kind is no text to be matched. -/
  | notMatchable (kind : String)
  /-- A value of this kind cannot be looked for in a text. -/
  | notSearchable (kind : String)
  | notSerialisable (kind : String)
  | notReal (text : String)
  /-- A whole number has more digits than are read. -/
  | tooManyDigits (count : Nat)
  /-- A whole number has more digits than are written. -/
  | numberTooLong
  /-- A whole number is past the largest number of 64 bits. -/
  | numberTooLarge
  /-- A string is written with half of a pair of units. No text here can hold it, so what becomes of
  it is not followed. -/
  | halfPair
  /-- The help text holds a placeholder that cannot be filled. -/
  | badPlaceholder (misuse : Percent.Misuse)
  /-- The home directory of a user is not known. -/
  | unknownHome
  | linkLoop (path : String)
  | interrupted
  /-- The operation is left to more specific kinds. -/
  | notImplemented
deriving DecidableEq

namespace Fault

def message : Fault → String
  | system error path none => s!"[Errno {error.code}] {error.description}: {quote path}"
  | system error path (some target) =>
    s!"[Errno {error.code}] {error.description}: {quote path} -> {quote target}"
  | nullByte => "embedded null byte"
  | noDirectory => s!"[Errno {SystemError.notFound.code}] {SystemError.notFound.description}"
  | undecodable cause => cause.message
  | unreadable path reason => s!"{path}: {reason}"
  | invalidDefaultTime shown => s!"default_time must be a valid HH:MM time, got {shown}"
  | invalidInterval => "watch_interval must be greater than zero"
  | noWorkspace root => s!"Workspace not found: {root}"
  | noAttribute kind name => s!"'{kind}' object has no attribute '{name}'"
  | notIterable kind => s!"'{kind}' object is not iterable"
  | notPath kind => s!"expected str, bytes or os.PathLike object, not {kind}"
  | notNumber kind => s!"float() argument must be a string or a real number, not '{kind}'"
  | notMatchable kind => s!"expected string or bytes-like object, got '{kind}'"
  | notSearchable kind => s!"'in <string>' requires string as left operand, not {kind}"
  | notSerialisable kind => s!"Object of type {kind} is not JSON serializable"
  | notReal text => s!"could not convert string to float: {quote text}"
  | tooManyDigits count =>
    s!"Exceeds the limit (4300 digits) for integer string conversion: value has {count} digits; " ++
      "use sys.set_int_max_str_digits() to increase the limit"
  | numberTooLong =>
    "Exceeds the limit (4300 digits) for integer string conversion; " ++
      "use sys.set_int_max_str_digits() to increase the limit"
  | numberTooLarge => "int too large to convert to float"
  | halfPair => ""
  | badPlaceholder misuse => misuse.message
  | unknownHome => "Could not determine home directory."
  | linkLoop path => s!"Symlink loop from {quote path}"
  | interrupted => ""
  | notImplemented => ""

/-- The fault says that one document cannot be read; a scan goes on with the others. -/
def isUnreadable : Fault → Bool
  | system .. => true
  | undecodable _ => true
  | _ => false

end Fault

theorem bind_eq_ok {ε α β : Type} {x : Except ε α} {f : α → Except ε β} {b : β} :
    x >>= f = .ok b ↔ ∃ a, x = .ok a ∧ f a = .ok b := by
  cases x with
  | error fault => simp [bind, Except.bind]
  | ok a => simp [bind, Except.bind]

theorem map_eq_ok {ε α β : Type} {x : Except ε α} {f : α → β} {b : β} :
    x.map f = .ok b ↔ ∃ a, x = .ok a ∧ f a = b := by
  cases x with
  | error e => simp [Except.map]
  | ok a => simp [Except.map]

theorem bind_eq_error {ε α β : Type} {x : Except ε α} {f : α → Except ε β} {e : ε} :
    x >>= f = .error e ↔ x = .error e ∨ ∃ a, x = .ok a ∧ f a = .error e := by
  cases x with
  | error e' => simp [bind, Except.bind]
  | ok a => simp [bind, Except.bind]

end ReminderScan
