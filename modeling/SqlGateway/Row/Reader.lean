import SqlGateway.Reading
import SqlGateway.Value.Conversion

/-!
# Column readers

How the cells of a column are read, by its declared type. Long columns are read as streams, the
others as plain values, and both are converted to the family that the type declares.
-/

namespace SqlGateway

inductive CellRead where
  | object (index : Nat)
  | binaryStream (index : Nat)
  | characterStream (index : Nat)
  deriving DecidableEq, Repr

abbrev CellRead.Answer : CellRead → Type
  | .object _ => Value
  | .binaryStream _ | .characterStream _ => Option Stream

abbrev CellReading (ε α : Type) := ExceptT ε (Reading CellRead CellRead.Answer) α

def CellRead.ask (r : CellRead) : CellReading Failure r.Answer :=
  Reading.question r

inductive Reader where
  | object
  | bytes
  | binaryStream
  | text
  | characterStream
  | bool
  | integer
  | float
  | decimal
  | date
  | time
  | timestamp
  deriving DecidableEq, Repr

def SqlType.reader : SqlType → Reader
  | .binary | .varBinary | .blob => .bytes
  | .longVarBinary => .binaryStream
  | .char | .varChar | .nChar | .nVarChar => .text
  | .longVarChar | .clob => .characterStream
  | .bit | .boolean => .bool
  | .tinyInt | .smallInt | .integer | .bigInt => .integer
  | .float | .double | .real => .float
  | .decimal | .numeric => .decimal
  | .date => .date
  | .time | .timeWithTimezone => .time
  | .timestamp | .timestampWithTimezone => .timestamp
  | .refCursor | .object | .other => .object

def readAs {α : Type} (convert : Value → Except Failure (Option α)) (index : Nat) :
    CellReading Failure (Option α) := do
  let value ← CellRead.ask (.object index)
  ExceptT.mk (pure (convert value))

/-! ## Streams -/

def Stream.unreadable (index : Nat) (reason : String) : Failure :=
  ⟨.failed, s!"Failed to read column {index}", [reason]⟩

def Stream.readBytes (index : Nat) : Stream → Except Failure Value
  | .bytes content => .ok (.bytes content)
  | .broken reason => .error (unreadable index reason)

/-- The text of a stream, whose bytes are UTF-8. -/
def Stream.readText (index : Nat) : Stream → Except Failure Value
  | .bytes content =>
    match String.fromUTF8? content with
    | some text => .ok (.text text)
    | none => .error (unreadable index "stream did not contain valid UTF-8")
  | .broken reason => .error (unreadable index reason)

/-- A present stream's content, or the null value. -/
def readStream (read : Nat → Stream → Except Failure Value) (index : Nat)
    (stream : Option Stream) : CellReading Failure Value :=
  match stream with
  | some stream => ExceptT.mk (pure (read index stream))
  | none => pure .null

/-! ## Reading a cell -/

namespace Reader

def read (reader : Reader) (index : Nat) : CellReading Failure Value :=
  match reader with
  | .object => CellRead.ask (.object index)
  | .bytes => Value.ofOption .bytes <$> readAs Value.toBytes index
  | .binaryStream => do
    let stream ← CellRead.ask (.binaryStream index)
    readStream Stream.readBytes index stream
  | .text => Value.ofOption .text <$> readAs Value.toText index
  | .characterStream => do
    let stream ← CellRead.ask (.characterStream index)
    readStream Stream.readText index stream
  | .bool => Value.ofOption .bool <$> readAs Value.toBool index
  | .integer => Value.ofOption .int <$> readAs Value.toInteger index
  | .float => Value.ofOption .float <$> readAs Value.toFloat index
  | .decimal => Value.ofOption .decimal <$> readAs Value.toDecimal index
  | .date => Value.ofOption .date <$> readAs Value.toDate index
  | .time => Value.ofOption .time <$> readAs Value.toTime index
  | .timestamp => Value.ofOption .timestamp <$> readAs Value.toTimestamp index

end Reader

end SqlGateway
