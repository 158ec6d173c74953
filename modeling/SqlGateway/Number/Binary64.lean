/-!
# Double-precision numbers

A number of IEEE 754's 64-bit binary format is its bit pattern: a sign and a code. The finite codes
are numbered in the order of their magnitudes, and every magnitude is a whole number of the least
positive one, 2⁻¹⁰⁷⁴, so all arithmetic here is on natural numbers.
-/

namespace SqlGateway.Number

structure Binary64 where
  bits : UInt64
  deriving DecidableEq, Repr

namespace Binary64

/-- The code of infinity, above the codes of all finite numbers. -/
def infinityCode : Nat := 0x7FF0000000000000

/-- The bit that is set in negative numbers, above all codes. -/
def signBit : Nat := 0x8000000000000000

/-- The number of codes of one exponent, and the code of the least number whose digits are all
kept, 2⁻¹⁰²². -/
def binade : Nat := 0x10000000000000

def code (x : Binary64) : Nat :=
  x.bits.toNat % signBit

def isNegative (x : Binary64) : Bool :=
  signBit ≤ x.bits.toNat

def ofCode (negative : Bool) (code : Nat) : Binary64 :=
  ⟨.ofNat (if negative then signBit + code else code)⟩

def infinity (negative : Bool) : Binary64 :=
  ofCode negative infinityCode

def nan (negative : Bool) : Binary64 :=
  ofCode negative 0x7FF8000000000000

def isNaN (x : Binary64) : Bool :=
  infinityCode < x.code

def isFinite (x : Binary64) : Bool :=
  x.code < infinityCode

/-- Numerical equality: NaN equals nothing, and both zeros are equal. -/
def sameNumber (x y : Binary64) : Bool :=
  !x.isNaN && !y.isNaN && (x.bits == y.bits || x.code == 0 && y.code == 0)

/-- The magnitude of a finite code, in units of 2⁻¹⁰⁷⁴. -/
def magnitude (code : Nat) : Nat :=
  if code < binade then code
  else (binade + code % binade) * Nat.pow 2 (code / binade - 1)

/-! ## Rounding -/

/-- The nearest integer to a quotient; of two equally near ones the even. -/
def roundQuotient (num den : Nat) : Nat :=
  let q := num / den
  let r := num % den
  if 2 * r < den then q
  else if den < 2 * r then q + 1
  else q + q % 2

/-- The code nearest to a positive quotient, infinity beyond the finite range. -/
def nearestCode (num den : Nat) : Nat :=
  let n := num * Nat.pow 2 1074
  let shift := (n / den).log2 - 52
  min (shift * binade + roundQuotient n (den * Nat.pow 2 shift)) infinityCode

def ofInt (n : Int) : Binary64 :=
  ofCode (n < 0) (nearestCode n.natAbs 1)

def ofBinary32 (bits : UInt32) : Binary64 :=
  let negative := 0x80000000 ≤ bits.toNat
  let code := bits.toNat % 0x80000000
  if 0x7F800000 < code then nan negative
  else if code = 0x7F800000 then infinity negative
  else
    let units := if code < 0x800000 then code
      else (0x800000 + code % 0x800000) * Nat.pow 2 (code / 0x800000 - 1)
    ofCode negative (nearestCode units (Nat.pow 2 149))

end Binary64

end SqlGateway.Number
