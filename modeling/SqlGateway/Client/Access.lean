import SqlGateway.Cursor.Out
import SqlGateway.Row.Basic

/-!
# Accesses

What a client reads from a row or from the output parameters of a call, as data. A list of accesses
is a mapper: it makes them in order and gives all their answers, or the first failure.
-/

namespace SqlGateway

open Number Calendar

inductive Datum where
  | nothing
  | flag (b : Bool)
  | number (n : Int)
  | float (x : Binary64)
  | text (s : String)
  | bytes (bs : ByteArray)
  | date (d : Date)
  | time (t : Time)
  | timestamp (ts : Timestamp)
  | value (v : Value)
  | level (level : IsolationLevel)
  | savepoint (savepoint : Savepoint)
  | columns (columns : List Column)
  | slots (slots : List OutSlot)
  | map (row : RowMap)
  | list (items : List Datum)
  | results (items : List (Except Error Datum))

namespace Datum

def ofOption {α : Type} (f : α → Datum) : Option α → Datum
  | some a => f a
  | none => .nothing

def ofUnit (_ : Unit) : Datum := .nothing

def ofCounts (counts : List Int) : Datum :=
  .list (counts.map .number)

end Datum

/-! ## Rows -/

inductive RowAccess where
  | get (index : Nat)
  | getByLabel (label : String)
  | findColumn (label : String)
  | columns
  | columnCount
  | getBool (index : Nat)
  | getInteger (index : Nat)
  | getFloat (index : Nat)
  | getDecimal (index : Nat)
  | getText (index : Nat)
  | getBytes (index : Nat)
  | getDate (index : Nat)
  | getTime (index : Nat)
  | getTimestamp (index : Nat)
  | toMap
  | move (move : Row.Move)
  | edit (edit : Row.Edit)
  deriving DecidableEq

namespace RowAccess

def read (row : Row) : RowAccess → CellReading Error Datum
  | .get index => .value <$> row.get index
  | .getByLabel label => .value <$> row.getByLabel label
  | .findColumn label => (fun n : Nat => .number n) <$> ExceptT.mk (pure (row.findColumn label))
  | .columns => return .columns row.columns
  | .columnCount => return .number row.columnCount
  | .getBool index => Datum.ofOption .flag <$> row.getBool index
  | .getInteger index => Datum.ofOption (fun n => .number n.toInt) <$> row.getInteger index
  | .getFloat index => Datum.ofOption .float <$> row.getFloat index
  | .getDecimal index => Datum.ofOption .text <$> row.getDecimal index
  | .getText index => Datum.ofOption .text <$> row.getText index
  | .getBytes index => Datum.ofOption .bytes <$> row.getBytes index
  | .getDate index => Datum.ofOption .date <$> row.getDate index
  | .getTime index => Datum.ofOption .time <$> row.getTime index
  | .getTimestamp index => Datum.ofOption .timestamp <$> row.getTimestamp index
  | .toMap => .map <$> row.toMap
  | .move m => Datum.ofUnit <$> ExceptT.mk (pure (row.move m))
  | .edit e => Datum.ofUnit <$> ExceptT.mk (pure (row.edit e))

def mapper (accesses : List RowAccess) : RowMapper Datum := fun row =>
  .list <$> accesses.mapM (read row)

end RowAccess

/-! ## Output parameters -/

inductive OutAccess where
  | get (position : Nat)
  | getByName (name : String)
  | values
  | slots
  | fail (text : String)
  deriving DecidableEq, Repr

namespace OutAccess

def read (slots : List OutSlot) : OutAccess → OutReading Error Datum
  | .get position => .value <$> OutSlot.get slots position
  | .getByName name => .value <$> OutSlot.getByName slots name
  | .values => (fun values => .list (values.map .value)) <$> OutSlot.values slots
  | .slots => return .slots slots
  | .fail text => throw (.misuse (.caller text))

def mapper (accesses : List OutAccess) : OutMapper Datum := fun slots =>
  .list <$> accesses.mapM (read slots)

end OutAccess

end SqlGateway
