import ReminderScan.Number.Binary64

/-! Numbers written in decimal digits: rounding them to 64 bits, and the shortest one that rounds to
a given number. The shortest form is found by trying one digit, two digits and so on; what it gives
is checked to round back, so reading a written number never changes it. -/

namespace ReminderScan.Number

structure Decimal where
  negative : Bool
  digits : Nat
  exponent : Int
deriving DecidableEq, Repr

def digitCount (n : Nat) : Nat := (Nat.toDigits 10 n).length

namespace Decimal

/-- The nearest number of 64 bits. Exponents far outside the range are settled without building the
power of ten. -/
def round (d : Decimal) : Binary64 :=
  let size : Int := digitCount d.digits + d.exponent
  if d.digits = 0 || size < -400 then .zero d.negative
  else if size > 400 then .infinite d.negative
  else if 0 ≤ d.exponent then .ofRatio d.negative (d.digits * Nat.pow 10 d.exponent.toNat) 1
  else .ofRatio d.negative d.digits (Nat.pow 10 (-d.exponent).toNat)

/-- The digits without trailing zeros, at most `count` of them. -/
def dropZeros : (count : Nat) → Decimal → Decimal
  | 0, d => d
  | n + 1, d =>
    if d.digits ≠ 0 && d.digits % 10 = 0 then
      dropZeros n { d with digits := d.digits / 10, exponent := d.exponent + 1 }
    else d

end Decimal

namespace Binary64

/-- The positive quotient `num / den` lies in `[10 ^ (k - 1), 10 ^ k)` for this `k`. -/
def decimalPlace (num den : Nat) : Int :=
  let k : Int := digitCount num - digitCount den
  let reached := if 0 ≤ k then den * Nat.pow 10 k.toNat ≤ num else den ≤ num * Nat.pow 10 (-k).toNat
  if reached then k + 1 else k

/-- The two neighbours of `num / den` among the multiples of `10 ^ e`, the nearer first. Halfway
between them the even one comes first. -/
def neighbours (num den : Nat) (e : Int) : List Nat :=
  let (n, d) := if 0 ≤ e then (num, den * Nat.pow 10 e.toNat)
    else (num * Nat.pow 10 (-e).toNat, den)
  let q := n / d
  let r := n % d
  if d < 2 * r ∨ (2 * r = d ∧ q % 2 = 1) then [q + 1, q] else [q, q + 1]

/-- The decimal with the given count of digits that rounds to the number, if there is one. -/
def withDigits? (x : Binary64) (negative : Bool) (num den : Nat) (count : Nat) : Option Decimal :=
  let e : Int := decimalPlace num den - count
  ((neighbours num den e).map fun q => ⟨negative, q, e⟩).find? fun d : Decimal => d.round = x

def exactDecimal (negative : Bool) (m : Nat) (e : Int) : Decimal :=
  if 0 ≤ e then ⟨negative, m * Nat.pow 2 e.toNat, 0⟩ else ⟨negative, m * Nat.pow 5 (-e).toNat, e⟩

/-- The decimal with the fewest digits that rounds to the number, and of those the nearest one. Up
to 17 digits are tried; that many are always enough. -/
def shortest (x : Binary64) (negative : Bool) (m : Nat) (e : Int) : Decimal :=
  let num := if 0 ≤ e then m * Nat.pow 2 e.toNat else m
  let den := if 0 ≤ e then 1 else Nat.pow 2 (-e).toNat
  let found := (List.range 17).findSome? fun n => withDigits? x negative num den (n + 1)
  (found.getD (exactDecimal negative m e)).dropZeros 20

end Binary64
end ReminderScan.Number
