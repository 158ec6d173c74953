import SqlGateway.Database.Results

/-!
# In-memory databases

An in-memory database has one table. Each text that it knows stands for a procedure on the table,
with the values that are bound. Savepoints hold copies of the table.
-/

namespace SqlGateway.Database

structure Table where
  rows : List (List Value) := []
  nextId : Int64 := 1
  deriving DecidableEq

/-- What a text stands for: it may change the table, also where it fails. -/
abbrev Procedure :=
  Table → List Value → Except Failure (Execution (ResultSet Value) Value) × Table

inductive Event where
  | prepare (kind : StatementKind)
  | autoCommit (enabled : Bool)
  | isolation (level : IsolationLevel)
  | savepoint (name : String)
  | rollback (name : String)
  | release (name : String)
  | commit
  | timeout (seconds : Nat)
  | fetchSize (rows : UInt32)
  | maxRows (rows : UInt64)
  deriving DecidableEq, Repr

def Event.text : Event → String
  | .prepare kind => s!"prepare {kind.label}"
  | .autoCommit enabled => "auto_commit=" ++ if enabled then "true" else "false"
  | .isolation level => s!"isolation={level.sqlName}"
  | .savepoint name => s!"savepoint {name}"
  | .rollback name => s!"rollback {name}"
  | .release name => s!"release {name}"
  | .commit => "commit"
  | .timeout seconds => s!"timeout={seconds}"
  | .fetchSize rows => s!"fetch_size={rows.toNat}"
  | .maxRows rows => s!"max_rows={rows.toNat}"

structure MemoryStatement where
  sql : String := ""
  keysRequested : Bool := false
  bound : List (Nat × Value) := []
  registered : Registry Nat SqlType := []
  added : List (List Value) := []
  results : Results (ResultSet Value) Value := {}
  closed : Bool := false

/-- The savepoints that were made, and the statements and cursors that are open, are counted by
natural numbers. A count of fixed width agrees with them as long as it neither overflows nor is
taken below zero, where a natural number stays zero. -/
structure Memory where
  procedures : Registry String Procedure := []
  table : Table := {}
  autoCommit : Bool := true
  isolation : IsolationLevel := .readCommitted
  batch : Bool := true
  refuseAutoCommit : Bool := false
  closed : Bool := false
  savepoints : List (Savepoint × Table) := []
  savepointsMade : Nat := 0
  events : List Event := []
  executed : List String := []
  openStatements : Nat := 0
  openCursors : Nat := 0
  statements : Registry StatementId MemoryStatement := []
  cursors : Registry CursorId (CursorState Value) := []

namespace MemoryStatement

def insertBound (position : Nat) (value : Value) : List (Nat × Value) → List (Nat × Value)
  | [] => [(position, value)]
  | (p, v) :: rest =>
    if position < p then (position, value) :: (p, v) :: rest
    else if position = p then (position, value) :: rest
    else (p, v) :: insertBound position value rest

def bind (statement : MemoryStatement) (position : Nat) (value : Value) : MemoryStatement :=
  { statement with bound := insertBound position value statement.bound }

def values (statement : MemoryStatement) : List Value :=
  statement.bound.map (·.2)

/-- Takes over what an execution produced. Keys that were not asked for are not kept. -/
def absorb (statement : MemoryStatement) (e : Execution (ResultSet Value) Value) :
    MemoryStatement :=
  { statement with
    results := { Results.ofExecution e with
      keys := if statement.keysRequested then e.keys else statement.results.keys } }

end MemoryStatement

namespace Memory

def statement (db : Memory) (i : StatementId) : MemoryStatement :=
  (db.statements.get? i).getD {}

def putStatement (db : Memory) (i : StatementId) (statement : MemoryStatement) : Memory :=
  { db with statements := db.statements.put i statement }

/-- A cursor; one that was never opened is over no rows. -/
def cursor (db : Memory) (c : CursorId) : CursorState Value :=
  (db.cursors.get? c).getD (.ofSet ⟨[], []⟩)

def putCursor (db : Memory) (c : CursorId) (cursor : CursorState Value) : Memory :=
  { db with cursors := db.cursors.put c cursor }

def record (db : Memory) (e : Event) : Memory :=
  { db with events := db.events ++ [e] }

/-! ## Changes from outside -/

def define (db : Memory) (sql : String) (procedure : Procedure) : Memory :=
  { db with procedures := db.procedures.put sql procedure }

def disconnect (db : Memory) : Memory :=
  { db with closed := true }

def setBatch (db : Memory) (batch : Bool) : Memory :=
  { db with batch }

def refuse (db : Memory) : Memory :=
  { db with refuseAutoCommit := true }

/-! ## What is left to fetch -/

def rowCount (set : ResultSet Value) : Nat :=
  set.rows.length

def supply (db : Memory) : Nat :=
  db.statements.total (·.results.supply rowCount) + db.cursors.total (·.ahead.length)

theorem supply_putStatement (db : Memory) (i : StatementId) (statement : MemoryStatement) :
    (db.putStatement i statement).supply + (db.statement i).results.supply rowCount =
      db.supply + statement.results.supply rowCount := by
  have := Registry.total_put (fun s : MemoryStatement => s.results.supply rowCount) i statement
    {} rfl db.statements
  simp only [supply, putStatement, Memory.statement] at *
  omega

theorem supply_putCursor (db : Memory) (c : CursorId) (cursor : CursorState Value) :
    (db.putCursor c cursor).supply + (db.cursor c).ahead.length =
      db.supply + cursor.ahead.length := by
  have := Registry.total_put (fun s : CursorState Value => s.ahead.length) c cursor
    (.ofSet ⟨[], []⟩) rfl db.cursors
  simp only [supply, putCursor, Memory.cursor] at *
  omega

end Memory

end SqlGateway.Database
