import SqlGateway.Cursor.Out
import SqlGateway.Driver.Supply
import SqlGateway.Row.Basic

/-!
# Fetching

Readings of rows and of output values are carried out by calls to the driver. A secondary cursor,
over generated keys, is read to its end and closed.
-/

namespace SqlGateway

variable {σ α : Type}

namespace Driver

variable (d : Driver σ)

def answerCell (c : CursorId) : (r : CellRead) → Act σ Failure r.Answer
  | .object index => d.perform (.getObject c index)
  | .binaryStream index => d.perform (.getBinaryStream c index)
  | .characterStream index => d.perform (.getCharacterStream c index)

def readRow (c : CursorId) (reading : CellReading Error α) : Act σ Error α :=
  ExceptT.mk (Reading.run (d.answerCell c) reading.run)

def answerOut (i : StatementId) (r : OutRead) : Act σ Failure r.Answer :=
  d.perform (.outValue i r.position r.type)

def readOut (i : StatementId) (reading : OutReading Error α) : Act σ Error α :=
  ExceptT.mk (Reading.run (d.answerOut i) reading.run)

variable {d} in
theorem frugal_readRow (c : CursorId) (reading : CellReading Error α) :
    Frugal d (d.readRow c reading).run := by
  refine Frugal.reading (fun r => ?_) reading.run
  cases r <;> exact Frugal.perform rfl

/-! ## Generated keys -/

/-- The row that a cursor has moved on to. The columns are asked for with the first row. -/
def keyRow (c : CursorId) (row : Option Row) : Act σ Failure Row :=
  match row with
  | some row => return row
  | none => return Row.ofColumns (← d.perform (.columns c))

def drainRows (mapper : RowMapper α) (c : CursorId) (row : Option Row) (s : Session σ) :
    Except Error (List α) × Session σ :=
  match _hn : (d.perform (.next c)).run s with
  | (.error f, s') => (.error (.ofFailure f), s')
  | (.ok false, s') => (.ok [], s')
  | (.ok true, s') =>
    match _hr : (d.keyRow c row).run s' with
    | (.error f, s'') => (.error (.ofFailure f), s'')
    | (.ok row, s'') =>
      match _hm : (d.readRow c (mapper row)).run s'' with
      | (.error e, s''') => (.error e, s''')
      | (.ok a, s''') =>
        let (rest, s4) := drainRows mapper c (some row) s'''
        (rest.map (a :: ·), s4)
termination_by s.supply d
decreasing_by
  have h1 := supply_next_lt _hn
  have h2 : s''.supply d ≤ s'.supply d := by
    refine Frugal.le_of_eq (d := d) ?_ _hr
    cases ‹Option Row› with
    | some row => exact Frugal.pureAct _
    | none => exact Frugal.bindAct (Frugal.perform rfl) fun _ => Frugal.pureAct _
  have h3 := Frugal.le_of_eq (frugal_readRow c (mapper row)) _hm
  omega

/-- Maps all rows of a cursor and closes it, whether that worked or not. -/
def drain (mapper : RowMapper α) (c : CursorId) : Act σ Error (List α) := do
  let rows ← ExceptT.lift (d.drainRows mapper c none)
  let closed ← ExceptT.lift (surfaced (d.perform (.closeCursor c))).run
  let rows ← MonadExcept.ofExcept rows
  MonadExcept.ofExcept closed
  return rows

end Driver

end SqlGateway
