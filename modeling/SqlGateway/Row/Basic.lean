import SqlGateway.Row.Map
import SqlGateway.Row.Reader

/-!
# Rows

The current row of a forward-only, read-only cursor: its columns and their readers. What its cells
hold is asked for when it is needed.
-/

namespace SqlGateway

open Number Calendar

structure Row where
  columns : List Column
  readers : List Reader
  deriving DecidableEq

/-- A row's part in a program of its caller. What it does depends on the row and on what it is
answered, and not on the rows before: it keeps no state of its own from one row to the next. -/
abbrev RowMapper (α : Type) := Row → CellReading Error α

namespace Row

def ofColumns (columns : List Column) : Row :=
  ⟨columns, columns.map (·.type.reader)⟩

def sameTypes (row : Row) (columns : List Column) : Bool :=
  row.columns.map (·.type) == columns.map (·.type)

def columnCount (row : Row) : Nat :=
  row.columns.length

def surfaced {α : Type} (reading : CellReading Failure α) : CellReading Error α :=
  ExceptT.adapt Error.ofFailure reading

/-! ## Columns -/

def checkIndex (row : Row) (index : Nat) : Except Error Unit :=
  if index = 0 || row.columnCount < index then
    .error (.misuse (.columnIndex index row.columnCount))
  else .ok ()

/-- The number of the first column with the label, up to ASCII letter case. -/
def findColumn (row : Row) (label : String) : Except Error Nat :=
  match row.columns.findIdx? (Text.sameLabel ·.name label) with
  | some i => .ok (i + 1)
  | none => .error (.misuse (.columnLabel label))

/-! ## Cells -/

def get (row : Row) (index : Nat) : CellReading Error Value := do
  ExceptT.mk (pure (row.checkIndex index))
  surfaced ((row.readers.getD (index - 1) .object).read index)

def getByLabel (row : Row) (label : String) : CellReading Error Value := do
  let index ← ExceptT.mk (pure (row.findColumn label))
  row.get index

def getAs {α : Type} (convert : Value → Except Failure (Option α)) (row : Row) (index : Nat) :
    CellReading Error (Option α) := do
  ExceptT.mk (pure (row.checkIndex index))
  surfaced (readAs convert index)

def getBool : Row → Nat → CellReading Error (Option Bool) := getAs Value.toBool
def getInteger : Row → Nat → CellReading Error (Option Int64) := getAs Value.toInteger
def getFloat : Row → Nat → CellReading Error (Option Binary64) := getAs Value.toFloat
def getDecimal : Row → Nat → CellReading Error (Option String) := getAs Value.toDecimal
def getText : Row → Nat → CellReading Error (Option String) := getAs Value.toText
def getBytes : Row → Nat → CellReading Error (Option ByteArray) := getAs Value.toBytes
def getDate : Row → Nat → CellReading Error (Option Date) := getAs Value.toDate
def getTime : Row → Nat → CellReading Error (Option Time) := getAs Value.toTime
def getTimestamp : Row → Nat → CellReading Error (Option Timestamp) := getAs Value.toTimestamp

def addColumns (row : Row) (index : Nat) (m : RowMap) : List Column → CellReading Error RowMap
  | [] => pure m
  | column :: columns => do
    if m.contains column.name then row.addColumns (index + 1) m columns
    else
      let value ← row.get index
      row.addColumns (index + 1) (m.insert column.name value) columns

/-- The row as a map. Of columns with the same label only the first is read. -/
def toMap (row : Row) : CellReading Error RowMap :=
  row.addColumns 1 {} row.columns

/-! ## What such a row refuses -/

inductive Move where
  | previous
  | first
  | last
  | beforeFirst
  | afterLast
  | absolute (row : Int)
  | relative (rows : Int)
  deriving DecidableEq, Repr

inductive Edit where
  | updateValue (index : Nat) (value : Value)
  | updateRow
  | insertRow
  | deleteRow
  deriving DecidableEq

def move (_row : Row) (_move : Move) : Except Error Unit :=
  .error .unsupportedOperation

def edit (_row : Row) (_edit : Edit) : Except Error Unit :=
  .error .unsupportedOperation

end Row

end SqlGateway
