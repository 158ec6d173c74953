import SqlGateway.Driver.Call
import SqlGateway.Value.Conversion

/-!
# Result sets

A set of rows with its columns, and a cursor that goes over it once, from before the first row to
after the last.
-/

namespace SqlGateway.Database

structure ResultSet (κ : Type) where
  columns : List Column
  rows : List (List κ)

namespace ResultSet

variable {κ : Type}

def append (a b : ResultSet κ) : ResultSet κ :=
  { a with rows := a.rows ++ b.rows }

def merge : List (ResultSet κ) → Option (ResultSet κ)
  | [] => none
  | a :: rest => some (rest.foldl append a)

end ResultSet

/-- A cursor: the row that it is on, if any, and the rows ahead. -/
structure CursorState (κ : Type) where
  columns : List Column
  row : Option (List κ)
  ahead : List (List κ)
  closed : Bool := false

namespace CursorState

variable {κ : Type}

def ofSet (set : ResultSet κ) : CursorState κ :=
  { columns := set.columns, row := none, ahead := set.rows }

def next (c : CursorState κ) : Bool × CursorState κ :=
  match c.ahead with
  | row :: ahead => (true, { c with row := some row, ahead })
  | [] => (false, { c with row := none })

def cell (c : CursorState κ) (index : Nat) : Except Failure κ :=
  match c.row with
  | none => .error (.plain "Cursor is not on a row")
  | some row =>
    match if index = 0 then none else row[index - 1]? with
    | some cell => .ok cell
    | none => .error (.plain s!"Invalid column index {index}")

end CursorState

def narrow (count : Int64) : Except Failure Int32 :=
  if Int32.minValue.toInt ≤ count.toInt && count.toInt ≤ Int32.maxValue.toInt then
    .ok count.toInt32
  else .error (.plain "Update count overflows i32")

def binaryStream (cell : Except Failure Value) : Except Failure (Option Stream) := do
  return (← (← cell).toBytes).map Stream.bytes

def characterStream (cell : Except Failure Value) : Except Failure (Option Stream) := do
  return (← (← cell).toText).map fun text => .bytes text.toUTF8

end SqlGateway.Database
