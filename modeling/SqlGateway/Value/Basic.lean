import SqlGateway.Calendar.Text
import SqlGateway.Number.Integer
import SqlGateway.Number.Shortest

/-!
# Values

A value crosses the boundary to the driver as a column of a row or as a parameter. Two values are
the same if they are of one family and equal in it, floats as numbers.
-/

namespace SqlGateway

open Number Calendar

/-- Bytes are compared by their contents. -/
instance decEqContent : DecidableEq ByteArray := fun a b =>
  decidable_of_iff (a.data = b.data) ByteArray.ext_iff.symm

inductive Value where
  | null
  | bool (b : Bool)
  | int (n : Int64)
  | float (x : Binary64)
  /-- An exact number, kept as its text. -/
  | decimal (s : String)
  | text (s : String)
  | bytes (bs : ByteArray)
  | date (d : Date)
  | time (t : Time)
  | timestamp (ts : Timestamp)
  deriving DecidableEq

namespace Value

def isNull : Value → Bool
  | .null => true
  | _ => false

def typeName : Value → String
  | .null => "NULL"
  | .bool _ => "boolean"
  | .int _ => "integer"
  | .float _ => "float"
  | .decimal _ => "decimal"
  | .text _ => "text"
  | .bytes _ => "bytes"
  | .date _ => "date"
  | .time _ => "time"
  | .timestamp _ => "timestamp"

def same : Value → Value → Bool
  | .float x, .float y => x.sameNumber y
  | v, w => decide (v = w)

instance : BEq Value := ⟨same⟩

/-! ## Display -/

def hexDigit (d : Nat) : Char :=
  if d < 10 then digitChar d else Char.ofNat ('A'.toNat + (d - 10))

def hexText (bs : ByteArray) : List Char :=
  bs.toList.flatMap fun b => [hexDigit (b.toNat / 16), hexDigit (b.toNat % 16)]

/-- The text of a value, as shown in diagnostics and as read from a column. -/
def display : Value → String
  | .null => "null"
  | .bool b => if b then "true" else "false"
  | .int n => .ofList (integerText n)
  | .float x => .ofList x.text
  | .decimal s => s
  | .text s => s
  | .bytes bs => .ofList ('0' :: 'x' :: hexText bs)
  | .date d => .ofList d.text
  | .time t => .ofList t.text
  | .timestamp ts => .ofList ts.text

/-! ## Values of other types -/

def ofOption {α : Type} (f : α → Value) : Option α → Value
  | some a => f a
  | none => .null

def ofBinary32 (bits : UInt32) : Value :=
  .float (.ofBinary32 bits)

end Value

end SqlGateway
