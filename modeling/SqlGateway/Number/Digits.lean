/-!
# Decimal digits

Natural numbers written in decimal, most significant digit first.
-/

namespace SqlGateway.Number

def digitChar (d : Nat) : Char :=
  Char.ofNat ('0'.toNat + d)

def digitValue (c : Char) : Nat :=
  c.toNat - '0'.toNat

def digits (n : Nat) : List Char :=
  if n < 10 then [digitChar n] else digits (n / 10) ++ [digitChar (n % 10)]

/-- The digits of a number with zeros in front, at least `width` characters in all. -/
def paddedDigits (width n : Nat) : List Char :=
  let ds := digits n
  List.replicate (width - ds.length) '0' ++ ds

def digitsValue (ds : List Char) : Nat :=
  ds.foldl (fun n c => 10 * n + digitValue c) 0

end SqlGateway.Number
