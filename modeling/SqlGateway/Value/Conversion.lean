import SqlGateway.Calendar.Reader
import SqlGateway.Failure
import SqlGateway.Number.Numeral
import SqlGateway.Text.Basic
import SqlGateway.Value.Basic

/-!
# Reading values as another family

Null reads as nothing in every family. What has no reading in the wanted family is a failure that
names both.
-/

namespace SqlGateway.Value

open Number Calendar Text

def mismatch (v : Value) (wanted : String) : Failure :=
  .plain s!"Cannot read {v.typeName} as {wanted}"

/-- What was read, or the mismatch if nothing was. -/
def orMismatch {α : Type} (v : Value) (wanted : String) (read : Option α) :
    Except Failure (Option α) :=
  match read with
  | some a => .ok (some a)
  | none => .error (v.mismatch wanted)

def readFlag? (s : List Char) : Option Bool :=
  let word := String.ofList (foldAscii s)
  if word ∈ ["true", "1", "y", "yes"] then some true
  else if word ∈ ["false", "0", "n", "no"] then some false
  else none

def toBool (v : Value) : Except Failure (Option Bool) :=
  match v with
  | .null => .ok none
  | .bool b => .ok (some b)
  | .int n => .ok (some (n != 0))
  | .text s => v.orMismatch "boolean" (readFlag? (trim s.toList))
  | _ => .error (v.mismatch "boolean")

def toInteger (v : Value) : Except Failure (Option Int64) :=
  match v with
  | .null => .ok none
  | .bool b => .ok (some (if b then 1 else 0))
  | .int n => .ok (some n)
  | .decimal s | .text s => v.orMismatch "integer" (readInteger? (trim s.toList))
  | _ => .error (v.mismatch "integer")

def toFloat (v : Value) : Except Failure (Option Binary64) :=
  match v with
  | .null => .ok none
  | .int n => .ok (some (.ofInt n.toInt))
  | .float x => .ok (some x)
  | .decimal s | .text s =>
    v.orMismatch "float" ((Numeral.read? (trim s.toList)).map Numeral.toBinary64)
  | _ => .error (v.mismatch "float")

def toDecimal (v : Value) : Except Failure (Option String) :=
  match v with
  | .null => .ok none
  | .int _ | .float _ => .ok (some v.display)
  | .decimal s => .ok (some s)
  | .text s =>
    let number := trim s.toList
    v.orMismatch "decimal" ((Numeral.read? number).map fun _ => .ofList number)
  | _ => .error (v.mismatch "decimal")

def toText (v : Value) : Except Failure (Option String) :=
  match v with
  | .null => .ok none
  | .bytes _ => .error (v.mismatch "text")
  | _ => .ok (some v.display)

def toBytes (v : Value) : Except Failure (Option ByteArray) :=
  match v with
  | .null => .ok none
  | .bytes bs => .ok (some bs)
  | .text s => .ok (some s.toUTF8)
  | _ => .error (v.mismatch "bytes")

def toDate (v : Value) : Except Failure (Option Date) :=
  match v with
  | .null => .ok none
  | .date d => .ok (some d)
  | .timestamp ts => .ok (some ts.date)
  | .text s => v.orMismatch "date" (Date.read? (trim s.toList))
  | _ => .error (v.mismatch "date")

def toTime (v : Value) : Except Failure (Option Time) :=
  match v with
  | .null => .ok none
  | .time t => .ok (some t)
  | .timestamp ts => .ok (some ts.time)
  | .text s => v.orMismatch "time" (Time.read? (trim s.toList))
  | _ => .error (v.mismatch "time")

def toTimestamp (v : Value) : Except Failure (Option Timestamp) :=
  match v with
  | .null => .ok none
  | .timestamp ts => .ok (some ts)
  | .date d => .ok (some ⟨d, .midnight⟩)
  | .text s => v.orMismatch "timestamp" (Timestamp.read? (trim s.toList))
  | _ => .error (v.mismatch "timestamp")

end SqlGateway.Value
