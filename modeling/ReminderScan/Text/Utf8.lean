/-! UTF-8: the bytes of a text, and reading them back one byte at a time. A sequence that cannot be
continued is reported with the place of its first byte and the number of its bytes that were still
right. -/

namespace ReminderScan.Text.Utf8

def encodeChar (c : Char) : List UInt8 :=
  let n := c.toNat
  if n < 0x80 then [n.toUInt8]
  else if n < 0x800 then [(0xC0 + n / 64).toUInt8, (0x80 + n % 64).toUInt8]
  else if n < 0x10000 then
    [(0xE0 + n / 4096).toUInt8, (0x80 + n / 64 % 64).toUInt8, (0x80 + n % 64).toUInt8]
  else
    [(0xF0 + n / 262144).toUInt8, (0x80 + n / 4096 % 64).toUInt8, (0x80 + n / 64 % 64).toUInt8,
      (0x80 + n % 64).toUInt8]

def encode (text : List Char) : List UInt8 := text.flatMap encodeChar

/-- Why a sequence of bytes writes no character. -/
inductive Defect where
  | badStart
  /-- The byte after the sequence does not continue it. -/
  | badContinuation
  | truncated
deriving DecidableEq, Repr

/-- A sequence that writes no character: the place and value of its first byte and how many of its
bytes were read. -/
structure Malformed where
  position : Nat
  length : Nat
  first : UInt8
  defect : Defect
deriving DecidableEq, Repr

/-- A character of which some bytes are read. `low` and `high` bound the next byte: they are
narrower than a continuation byte where a longer form of a smaller number, a surrogate or a number
past the last code point would arise. -/
structure Unfinished where
  code : Nat
  length : Nat
  missing : Nat
  low : Nat
  high : Nat
  first : UInt8

/-- What the first byte of a character announces: the character itself, or more bytes. -/
def start (b : UInt8) : Option (Char ⊕ Unfinished) :=
  let n := b.toNat
  if n < 0x80 then some (.inl (Char.ofNat n))
  else if n < 0xC2 then none
  else if n < 0xE0 then some (.inr ⟨n - 0xC0, 1, 1, 0x80, 0xBF, b⟩)
  else if n < 0xF0 then
    some
      (.inr ⟨n - 0xE0, 1, 2, if n = 0xE0 then 0xA0 else 0x80, if n = 0xED then 0x9F else 0xBF, b⟩)
  else if n < 0xF5 then
    some
      (.inr ⟨n - 0xF0, 1, 3, if n = 0xF0 then 0x90 else 0x80, if n = 0xF4 then 0x8F else 0xBF, b⟩)
  else none

/-- Reads bytes from a position on, where a character may be unfinished. -/
def decodeFrom (position : Nat) : Option Unfinished → List UInt8 → Except Malformed (List Char)
  | none, [] => .ok []
  | some u, [] => .error ⟨position - u.length, u.length, u.first, .truncated⟩
  | none, b :: rest =>
    match start b with
    | none => .error ⟨position, 1, b, .badStart⟩
    | some (.inl c) => (decodeFrom (position + 1) none rest).map (c :: ·)
    | some (.inr u) => decodeFrom (position + 1) (some u) rest
  | some u, b :: rest =>
    if u.low ≤ b.toNat && b.toNat ≤ u.high then
      let code := u.code * 64 + (b.toNat - 0x80)
      if u.missing = 1 then (decodeFrom (position + 1) none rest).map (Char.ofNat code :: ·)
      else decodeFrom (position + 1)
        (some ⟨code, u.length + 1, u.missing - 1, 0x80, 0xBF, u.first⟩) rest
    else .error ⟨position - u.length, u.length, u.first, .badContinuation⟩

def decode (bytes : List UInt8) : Except Malformed (List Char) := decodeFrom 0 none bytes

def Defect.message : Defect → String
  | .badStart => "invalid start byte"
  | .badContinuation => "invalid continuation byte"
  | .truncated => "unexpected end of data"

def hexByte (b : UInt8) : String :=
  String.ofList [Nat.digitChar (b.toNat / 16), Nat.digitChar (b.toNat % 16)]

/-- A single byte is named by its value, several by their range of places. -/
def Malformed.message (m : Malformed) : String :=
  "'utf-8' codec can't decode " ++
    (if m.length = 1 then s!"byte 0x{hexByte m.first} in position {m.position}"
      else s!"bytes in position {m.position}-{m.position + m.length - 1}") ++
    ": " ++ m.defect.message

end ReminderScan.Text.Utf8
