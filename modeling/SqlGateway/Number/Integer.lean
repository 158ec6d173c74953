import SqlGateway.Number.Digits

/-!
# Integers in text

An integer is written without a plus sign and read with an optional sign of either kind. Reading
refuses a number outside the 64-bit range.
-/

namespace SqlGateway.Number

def integerText (n : Int64) : List Char :=
  let v := n.toInt
  if v < 0 then '-' :: digits v.natAbs else digits v.natAbs

def toInt64? (v : Int) : Option Int64 :=
  if Int64.minValue.toInt ≤ v && v ≤ Int64.maxValue.toInt then some (.ofInt v) else none

/-- A number of at least one digit and nothing else. -/
def readNatural? (s : List Char) : Option Nat :=
  if !s.isEmpty && s.all Char.isDigit then some (digitsValue s) else none

def readInteger? (s : List Char) : Option Int64 :=
  match s with
  | '-' :: ds => do toInt64? (-(← readNatural? ds))
  | '+' :: ds => do toInt64? (← readNatural? ds)
  | ds => do toInt64? (← readNatural? ds)

end SqlGateway.Number
