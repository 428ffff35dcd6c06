import ReminderScan.Number.Decimal

/-! How a number of 64 bits is written: with the fewest digits that read back, positionally where
the point is near them and with an exponent elsewhere. -/

namespace ReminderScan.Number

structure Style where
  /-- A number below ten to this power is written with an exponent. -/
  lowest : Int
  /-- A number from ten to this power on is written with an exponent. -/
  highest : Int
  /-- The exponent has at least this many digits. -/
  exponentWidth : Nat
  nan : String
  infinity : String

/-- Messages and answers write `1e-05`, `0.0001`, `1e+16`, `inf` and `nan`. -/
def plainStyle : Style := ⟨-4, 16, 2, "nan", "inf"⟩

/-- Documents write the same digits but spell the special values out. -/
def jsonStyle : Style := ⟨-4, 16, 2, "NaN", "Infinity"⟩

/-- A number in decimal digits, with zeros in front up to the given width. -/
def padded (width n : Nat) : List Char :=
  let ds := Nat.toDigits 10 n
  List.replicate (width - ds.length) '0' ++ ds

def writtenInt (n : Int) : List Char := (if n < 0 then ['-'] else []) ++ Nat.toDigits 10 n.natAbs

def positional (ds : List Char) (point : Int) : List Char :=
  if point ≤ 0 then '0' :: '.' :: List.replicate (-point).toNat '0' ++ ds
  else if ds.length ≤ point.toNat then
    ds ++ List.replicate (point.toNat - ds.length) '0' ++ ['.', '0']
  else ds.take point.toNat ++ '.' :: ds.drop point.toNat

def scientific (style : Style) (ds : List Char) (exponent : Int) : List Char :=
  (match ds with
    | [] => []
    | [d] => [d]
    | d :: rest => d :: '.' :: rest) ++
    'e' :: (if exponent < 0 then '-' else '+') :: padded style.exponentWidth exponent.natAbs

def Decimal.written (style : Style) (d : Decimal) : List Char :=
  let ds := Nat.toDigits 10 d.digits
  let point : Int := ds.length + d.exponent
  (if d.negative then ['-'] else []) ++
    (if d.digits = 0 then ['0', '.', '0']
      else if style.lowest < point && point ≤ style.highest then positional ds point
      else scientific style ds (point - 1))

def Binary64.written (style : Style) : Binary64 → List Char
  | .nan => style.nan.toList
  | .infinite negative => (if negative then ['-'] else []) ++ style.infinity.toList
  | x@(.finite negative m e _) =>
    if m = 0 then Decimal.written style ⟨negative, 0, 0⟩
    else (Binary64.shortest x negative m e).written style

def Binary64.plain (x : Binary64) : String := String.ofList (x.written plainStyle)

end ReminderScan.Number
