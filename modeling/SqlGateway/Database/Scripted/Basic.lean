import SqlGateway.Database.Results

/-!
# Scripted databases

A scripted database stores nothing. Its executions take their results off a queue, whatever their
text is, and chosen calls fail. It keeps a record of what it is asked.
-/

namespace SqlGateway.Database

inductive Cell where
  | value (v : Value)
  | stream (content : Stream)
  deriving DecidableEq

def Cell.plain : Cell → Value
  | .value v => v
  | .stream _ => .null

/-- A result: a set of rows, or something else. -/
abbrev RowSet := Option (ResultSet Cell)

def RowSet.rowCount (set : RowSet) : Nat :=
  (set.map (·.rows.length)).getD 0

inductive Profile where
  | full
  /-- Executions with a 64-bit count are done by those with a 32-bit count. -/
  | narrow
  /-- Statements can only be bound, executed and closed. -/
  | bare
  deriving DecidableEq, Repr

/-- A call that fails: in one of its turns, counted from one, or in all of them if that is zero. -/
structure Fault where
  call : String
  turn : Nat := 1
  failure : Failure
  deriving DecidableEq, Repr

inductive Request where
  | probe (p : Probe)
  | call (c : Call)
  deriving DecidableEq

structure ScriptedStatement where
  added : Nat := 0
  results : Results RowSet Cell := {}

structure Scripted where
  profile : Profile := .full
  closed : Bool := false
  autoCommit : Bool := true
  isolation : IsolationLevel := .readCommitted
  supported : List IsolationLevel := [.readCommitted, .serializable]
  batch : Bool := true
  queue : List (Except Failure (Execution RowSet Cell)) := []
  faults : List Fault := []
  turns : Registry String Nat := []
  savepoints : Nat := 0
  statements : Registry StatementId ScriptedStatement := []
  cursors : Registry CursorId (CursorState Cell) := []
  requests : List Request := []

namespace Scripted

def statement (db : Scripted) (i : StatementId) : ScriptedStatement :=
  (db.statements.get? i).getD {}

def putStatement (db : Scripted) (i : StatementId) (statement : ScriptedStatement) : Scripted :=
  { db with statements := db.statements.put i statement }

def putResults (db : Scripted) (i : StatementId) (results : Results RowSet Cell) : Scripted :=
  db.putStatement i { db.statement i with results }

/-- A cursor; one that was never opened is over no rows. -/
def cursor (db : Scripted) (c : CursorId) : CursorState Cell :=
  (db.cursors.get? c).getD (.ofSet ⟨[], []⟩)

def putCursor (db : Scripted) (c : CursorId) (cursor : CursorState Cell) : Scripted :=
  { db with cursors := db.cursors.put c cursor }

def record (db : Scripted) (r : Request) : Scripted :=
  { db with requests := db.requests ++ [r] }

def disconnect (db : Scripted) : Scripted :=
  { db with closed := true }

/-! ## What is left to fetch -/

def supply (db : Scripted) : Nat :=
  db.statements.total (·.results.supply RowSet.rowCount) + db.cursors.total (·.ahead.length)

theorem supply_putResults (db : Scripted) (i : StatementId) (results : Results RowSet Cell) :
    (db.putResults i results).supply + (db.statement i).results.supply RowSet.rowCount =
      db.supply + results.supply RowSet.rowCount := by
  have := Registry.total_put (fun s : ScriptedStatement => s.results.supply RowSet.rowCount) i
    { db.statement i with results } {} rfl db.statements
  simp only [supply, putResults, putStatement, statement] at *
  omega

theorem supply_putCursor (db : Scripted) (c : CursorId) (cursor : CursorState Cell) :
    (db.putCursor c cursor).supply + (db.cursor c).ahead.length =
      db.supply + cursor.ahead.length := by
  have := Registry.total_put (fun s : CursorState Cell => s.ahead.length) c cursor
    (.ofSet ⟨[], []⟩) rfl db.cursors
  simp only [supply, putCursor, Scripted.cursor] at *
  omega

end Scripted

end SqlGateway.Database
