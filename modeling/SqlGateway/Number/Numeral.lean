import SqlGateway.Number.Binary64
import SqlGateway.Number.Digits

/-!
# Numbers in text

A number is written as an optional sign and either digits with an optional point, at least one
digit in all, and an optional exponent, or one of the words `inf`, `infinity` and `nan` in any
letter case.
-/

namespace SqlGateway.Number

inductive Numeral where
  /-- The digits before and after the point and the exponent of ten. -/
  | finite (negative : Bool) (whole fraction : List Char) (exponent : Int)
  | infinity (negative : Bool)
  | nan (negative : Bool)
  deriving DecidableEq, Repr

namespace Numeral

/-- An optional sign, and whether it is a minus. -/
def readSign : List Char → Bool × List Char
  | '-' :: s => (true, s)
  | '+' :: s => (false, s)
  | s => (false, s)

/-- The exponent that ends a number; none is zero. -/
def readExponent? : List Char → Option Int
  | [] => some 0
  | e :: s =>
    let (negative, ds) := readSign s
    if (e == 'e' || e == 'E') && !ds.isEmpty && ds.all Char.isDigit then
      some (if negative then -(digitsValue ds : Int) else digitsValue ds)
    else none

def readDigits? (negative : Bool) (s : List Char) : Option Numeral :=
  let whole := s.takeWhile Char.isDigit
  let rest := s.dropWhile Char.isDigit
  let (fraction, rest) :=
    match rest with
    | '.' :: r => (r.takeWhile Char.isDigit, r.dropWhile Char.isDigit)
    | _ => ([], rest)
  if whole.isEmpty && fraction.isEmpty then none
  else (readExponent? rest).map (.finite negative whole fraction)

def readWord? (negative : Bool) (s : List Char) : Option Numeral :=
  let word := s.map Char.toLower
  if word = "inf".toList || word = "infinity".toList then some (.infinity negative)
  else if word = "nan".toList then some (.nan negative)
  else none

def read? (s : List Char) : Option Numeral :=
  let (negative, s) := readSign s
  readDigits? negative s <|> readWord? negative s

/-- The nearest double-precision number. A decimal exponent far outside the range of magnitudes
decides the answer by itself. -/
def toBinary64 : Numeral → Binary64
  | .infinity negative => .infinity negative
  | .nan negative => .nan negative
  | .finite negative whole fraction exponent =>
    let coefficient := digitsValue (whole ++ fraction)
    let exponent := exponent - fraction.length
    let order := exponent + (digits coefficient).length
    if coefficient = 0 || order < -400 then .ofCode negative 0
    else if 400 < order then .infinity negative
    else .ofCode negative
      (Binary64.nearestCode (coefficient * Nat.pow 10 exponent.toNat)
        (Nat.pow 10 (-exponent).toNat))

end Numeral

end SqlGateway.Number
