import SqlGateway.Number.Binary64
import SqlGateway.Number.Digits

/-!
# Shortest decimal form

A finite number is written with the fewest digits that are read back as the same number; of two
such forms the nearer to the number is taken, and the greater if both are equally near. Digits
stand in positional notation, whatever their number, with no fraction where there is none.
-/

namespace SqlGateway.Number

structure Decimal where
  coefficient : Nat
  exponent : Int
  deriving DecidableEq, Repr

namespace Binary64

/-- The exponent of the greatest power of ten that is no greater than the magnitude of a positive
code. -/
def leadingExponent (code : Nat) : Int :=
  ((digits (magnitude code * Nat.pow 10 340 / Nat.pow 2 1074)).length : Int) - 341

/-- The multiple of `10 ^ exponent` next to the magnitude of a code that is read back as the code.
The numbers that are read back lie between the middles towards the neighbouring codes, which
belong to them if the code is even. -/
def decimalAt? (code : Nat) (exponent : Int) : Option Decimal :=
  let up := Nat.pow 10 (-exponent).toNat
  let den := Nat.pow 2 1075 * Nat.pow 10 exponent.toNat
  let value := 2 * magnitude code * up
  let low := (magnitude (code - 1) + magnitude code) * up
  let high := (magnitude code + magnitude (code + 1)) * up
  let even := code % 2 == 0
  let floor := value / den
  let floorFits := low < floor * den || even && low == floor * den
  let nextFits := (floor + 1) * den < high || even && (floor + 1) * den == high
  let nearerNext := den ≤ 2 * (value % den)
  if nextFits && (nearerNext || !floorFits) then some ⟨floor + 1, exponent⟩
  else if floorFits then some ⟨floor, exponent⟩
  else none

/-- The shortest decimal that is read back as the given positive code. -/
def shortest (code : Nat) : Decimal :=
  let lead := leadingExponent code
  ((List.range 17).findSome? fun (n : Nat) => decimalAt? code (lead - n)).getD ⟨magnitude code, 0⟩

def positional (d : Decimal) : List Char :=
  let ds := digits d.coefficient
  if 0 ≤ d.exponent then ds ++ List.replicate d.exponent.toNat '0'
  else
    let places := (-d.exponent).toNat
    let ds := List.replicate (places + 1 - ds.length) '0' ++ ds
    let fraction := (ds.drop (ds.length - places)).reverse.dropWhile (· == '0')
    let whole := ds.take (ds.length - places)
    if fraction.isEmpty then whole else whole ++ '.' :: fraction.reverse

def text (x : Binary64) : List Char :=
  if x.isNaN then "NaN".toList
  else
    let unsigned :=
      if !x.isFinite then "inf".toList
      else if x.code = 0 then ['0']
      else positional (shortest x.code)
    if x.isNegative then '-' :: unsigned else unsigned

end Binary64

end SqlGateway.Number
