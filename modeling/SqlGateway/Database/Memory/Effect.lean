import SqlGateway.Database.Memory.Basic

/-!
# What calls do to an in-memory database

Executions run the procedure of a statement's text. Statements and cursors are counted from when
they are made until they are closed for the first time.
-/

namespace SqlGateway.Database.Memory

/-! ## Transactions -/

/-- Switching auto-commit on ends the transaction, and its savepoints with it. -/
def switchAutoCommit (db : Memory) (enabled : Bool) : Except Failure Unit × Memory :=
  let db := db.record (.autoCommit enabled)
  if enabled && db.refuseAutoCommit then
    (.error (.plain "ORA-02089: COMMIT is not allowed in a subordinate session"), db)
  else
    let savepoints := if enabled && !db.autoCommit then [] else db.savepoints
    (.ok (), { db with savepoints, autoCommit := enabled })

def setSavepoint (db : Memory) : Savepoint × Memory :=
  let id := db.savepointsMade + 1
  let savepoint : Savepoint := ⟨id, s!"SP_{id}"⟩
  (savepoint, { db.record (.savepoint savepoint.name) with
    savepointsMade := id
    savepoints := db.savepoints ++ [(savepoint, db.table)] })

/-- Puts the copy of the table back. The savepoint stays. -/
def rollbackTo (db : Memory) (savepoint : Savepoint) : Except Failure Unit × Memory :=
  match db.savepoints.lookup savepoint with
  | some table => (.ok (), { db.record (.rollback savepoint.name) with table })
  | none => (.error (.plain s!"No savepoint {savepoint.name}"), db)

def release (db : Memory) (savepoint : Savepoint) : Memory :=
  { db.record (.release savepoint.name) with
    savepoints := db.savepoints.filter (·.1 != savepoint) }

def commit (db : Memory) : Memory :=
  { db.record .commit with savepoints := [] }

/-! ## Statements -/

def unknown (sql : String) : Failure :=
  .plain s!"Unknown statement: {sql}"

def prepare (db : Memory) (i : StatementId) (sql : String) (kind : StatementKind)
    (keys : GeneratedKeys) : Except Failure Unit × Memory :=
  if db.closed then (.error (.plain "Connection is closed"), db)
  else if (db.procedures.get? sql).isNone then (.error (unknown sql), db)
  else
    let db := db.putStatement i { sql, keysRequested := keys.isRequested }
    (.ok (), { db.record (.prepare kind) with openStatements := db.openStatements + 1 })

def run (db : Memory) (i : StatementId) (values : List Value) :
    Except Failure (Execution (ResultSet Value) Value) × Memory :=
  let statement := db.statement i
  match db.procedures.get? statement.sql with
  | none => (.error (unknown statement.sql), db)
  | some procedure =>
    let (outcome, table) := procedure db.table values
    let db := { db with table, executed := db.executed ++ [statement.sql] }
    match outcome with
    | .ok e => (.ok e, db.putStatement i (statement.absorb e))
    | .error f => (.error f, db)

def runEach (db : Memory) (i : StatementId) :
    List (List Value) → Except Failure (List (Execution (ResultSet Value) Value)) × Memory
  | [] => (.ok [], db)
  | values :: rows =>
    match db.run i values with
    | (.error f, db) => (.error f, db)
    | (.ok e, db) =>
      let (rest, db) := runEach db i rows
      (rest.map (e :: ·), db)

def advance (db : Memory) (i : StatementId) : Bool × Memory :=
  let statement := db.statement i
  let (moved, results) := statement.results.advance
  (moved, db.putStatement i { statement with results })

def execute (db : Memory) (i : StatementId) : Except Failure Bool × Memory :=
  match db.run i (db.statement i).values with
  | (.error f, db) => (.error f, db)
  | (.ok _, db) =>
    let (moved, db) := db.advance i
    (.ok moved, db)

def count (db : Memory) (i : StatementId) : Except Failure Int64 × Memory :=
  let (outcome, db) := db.run i (db.statement i).values
  (outcome.map (·.count), db)

/-- Executes a statement for every row that was added. The keys of all rows come together. -/
def countBatch (db : Memory) (i : StatementId) : Except Failure (List Int64) × Memory :=
  if db.batch then
    let statement := db.statement i
    match (db.putStatement i { statement with added := [] }).runEach i statement.added with
    | (.error f, db) => (.error f, db)
    | (.ok executions, db) =>
      let statement := db.statement i
      let keys := if statement.keysRequested then
        ResultSet.merge (executions.filterMap (·.keys)) else statement.results.keys
      (.ok (executions.map (·.count)),
        db.putStatement i { statement with results := { statement.results with keys } })
  else (.error (.unsupported "batch updates"), db)

/-- The value of an output parameter, which must be registered with the type. -/
def outValue (db : Memory) (i : StatementId) (position : Nat) (type : SqlType) :
    Except Failure Value :=
  let statement := db.statement i
  if statement.registered.get? position = some type then
    .ok (statement.results.outValue position)
  else .error (.plain s!"Parameter {position} is not registered as OUT")

def closeStatement (db : Memory) (i : StatementId) : Memory :=
  let statement := db.statement i
  if statement.closed then db
  else { db.putStatement i { statement with closed := true } with
    openStatements := db.openStatements - 1 }

/-! ## Cursors -/

def openSet (db : Memory) (c : CursorId) (set : ResultSet Value) : Memory :=
  { db.putCursor c (.ofSet set) with openCursors := db.openCursors + 1 }

def openCursor (db : Memory) (i : StatementId) (c : CursorId) : Bool × Memory :=
  let statement := db.statement i
  let db := db.putStatement i { statement with results := statement.results.withoutCurrent }
  match statement.results.current with
  | some set => (true, db.openSet c set)
  | none => (false, db)

def openKeys (db : Memory) (i : StatementId) (c : CursorId) : Except Failure Unit × Memory :=
  let statement := db.statement i
  if statement.keysRequested then
    let db := db.putStatement i { statement with results := statement.results.withoutKeys }
    (.ok (), db.openSet c (statement.results.keys.getD ⟨[⟨"ID", .bigInt⟩], []⟩))
  else (.error (.plain "Generated keys were not requested"), db)

def next (db : Memory) (c : CursorId) : Except Failure Bool × Memory :=
  let cursor := db.cursor c
  if cursor.closed then (.error (.plain "Cursor is closed"), db)
  else
    let (moved, cursor) := cursor.next
    (.ok moved, db.putCursor c cursor)

def closeCursor (db : Memory) (c : CursorId) : Memory :=
  let cursor := db.cursor c
  if cursor.closed then db
  else { db.putCursor c { cursor with closed := true } with openCursors := db.openCursors - 1 }

/-! ## What is left to fetch -/

theorem supply_switchAutoCommit (db : Memory) (enabled : Bool) :
    (db.switchAutoCommit enabled).2.supply = db.supply := by
  simp only [switchAutoCommit]
  split <;> rfl

theorem supply_rollbackTo (db : Memory) (savepoint : Savepoint) :
    (db.rollbackTo savepoint).2.supply = db.supply := by
  simp only [rollbackTo]
  split <;> rfl

theorem supply_prepare_le (db : Memory) (i : StatementId) (sql : String) (kind : StatementKind)
    (keys : GeneratedKeys) : (db.prepare i sql kind keys).2.supply ≤ db.supply := by
  simp only [prepare]
  split
  · exact Nat.le_refl _
  · split
    · exact Nat.le_refl _
    · have := supply_putStatement db i { sql, keysRequested := keys.isRequested }
      exact Nat.le_trans (Nat.le_add_right _ _) (Nat.le_of_eq this)

theorem supply_putStatement_of_results (db : Memory) (i : StatementId)
    (statement : MemoryStatement) (h : statement.results = (db.statement i).results) :
    (db.putStatement i statement).supply = db.supply := by
  have := supply_putStatement db i statement
  rw [h] at this
  omega

theorem supply_advance_le (db : Memory) (i : StatementId) :
    (db.advance i).2.supply ≤ db.supply := by
  have h1 := Results.supply_advance_le rowCount (db.statement i).results
  have h2 := supply_putStatement db i
    { db.statement i with results := (db.statement i).results.advance.2 }
  simp only [advance] at *
  omega

theorem supply_advance_lt (db : Memory) (i : StatementId) (h : (db.advance i).1 = true) :
    (db.advance i).2.supply < db.supply := by
  have h1 := Results.supply_advance_lt rowCount (db.statement i).results h
  have h2 := supply_putStatement db i
    { db.statement i with results := (db.statement i).results.advance.2 }
  simp only [advance] at *
  omega

theorem supply_openSet (db : Memory) (c : CursorId) (set : ResultSet Value) :
    (db.openSet c set).supply + (db.cursor c).ahead.length = db.supply + rowCount set :=
  supply_putCursor db c (.ofSet set)

theorem supply_openCursor_le (db : Memory) (i : StatementId) (c : CursorId) :
    (db.openCursor i c).2.supply ≤ db.supply := by
  have h1 := Results.supply_withoutCurrent rowCount (db.statement i).results
  have h2 := supply_putStatement db i
    { db.statement i with results := (db.statement i).results.withoutCurrent }
  simp only [openCursor]
  split
  · rename_i set hs
    have h3 := supply_openSet (db.putStatement i
      { db.statement i with results := (db.statement i).results.withoutCurrent }) c set
    simp only [hs, Option.map_some, Option.getD_some] at *
    omega
  · simp only at *
    omega

theorem supply_openKeys_le (db : Memory) (i : StatementId) (c : CursorId) :
    (db.openKeys i c).2.supply ≤ db.supply := by
  have h1 := Results.supply_withoutKeys rowCount (db.statement i).results
  have h2 := supply_putStatement db i
    { db.statement i with results := (db.statement i).results.withoutKeys }
  have h3 := supply_openSet (db.putStatement i
    { db.statement i with results := (db.statement i).results.withoutKeys }) c
    ((db.statement i).results.keys.getD ⟨[⟨"ID", .bigInt⟩], []⟩)
  simp only [openKeys]
  split
  · cases hk : (db.statement i).results.keys <;>
      simp only [hk, Option.map_none, Option.map_some, Option.getD_none, Option.getD_some,
        rowCount, List.length_nil] at h1 h2 h3 ⊢ <;>
      omega
  · exact Nat.le_refl _

theorem supply_next_le (db : Memory) (c : CursorId) : (db.next c).2.supply ≤ db.supply := by
  have h1 := (db.cursor c).ahead_next_le
  have h2 := supply_putCursor db c (db.cursor c).next.2
  simp only [next]
  split
  · exact Nat.le_refl _
  · simp only
    omega

theorem supply_next_lt (db : Memory) (c : CursorId) (h : (db.next c).1 = .ok true) :
    (db.next c).2.supply < db.supply := by
  have h2 := supply_putCursor db c (db.cursor c).next.2
  simp only [next] at h ⊢
  split
  · rename_i hc
    simp [hc] at h
  · rename_i hc
    simp only [hc, Bool.false_eq_true, if_false, Except.ok.injEq] at h
    have h1 := (db.cursor c).ahead_next_lt h
    simp only
    omega

theorem supply_closeStatement (db : Memory) (i : StatementId) :
    (db.closeStatement i).supply = db.supply := by
  simp only [closeStatement]
  split
  · rfl
  · exact supply_putStatement_of_results db i _ rfl

theorem supply_closeCursor_le (db : Memory) (c : CursorId) :
    (db.closeCursor c).supply ≤ db.supply := by
  have := supply_putCursor db c { db.cursor c with closed := true }
  simp only [closeCursor]
  split
  · exact Nat.le_refl _
  · simp only [supply] at this ⊢
    simp only [putCursor] at this ⊢
    omega

end SqlGateway.Database.Memory
