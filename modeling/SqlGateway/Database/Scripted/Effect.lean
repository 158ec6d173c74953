import SqlGateway.Database.Scripted.Basic

/-!
# What calls do to a scripted database

The effect of each call that does not fail by plan. An execution takes the next result off the
queue; once the queue is empty executions give nothing.
-/

namespace SqlGateway.Database.Scripted

/-! ## Executions -/

def take (db : Scripted) (i : StatementId) :
    Except Failure (Execution RowSet Cell) × Scripted :=
  match db.queue with
  | [] => (.ok {}, db.putResults i {})
  | .ok e :: queue => (.ok e, { db with queue }.putResults i (.ofExecution e))
  | .error f :: queue => (.error f, { db with queue })

/-- Takes as many results, one after another, until one is a failure. -/
def takeEach (db : Scripted) (i : StatementId) :
    Nat → Except Failure (List (Execution RowSet Cell)) × Scripted
  | 0 => (.ok [], db)
  | n + 1 =>
    match db.take i with
    | (.error f, db) => (.error f, db)
    | (.ok e, db) =>
      let (rest, db) := takeEach db i n
      (rest.map (e :: ·), db)

def execute (db : Scripted) (i : StatementId) : Except Failure Bool × Scripted :=
  match db.take i with
  | (.error f, db) => (.error f, db)
  | (.ok _, db) =>
    let (moved, results) := (db.statement i).results.advance
    (.ok moved, db.putResults i results)

def count (db : Scripted) (i : StatementId) : Except Failure Int64 × Scripted :=
  let (taken, db) := db.take i
  (taken.map (·.count), db)

/-- Executes a statement once for every row that was added. The keys of all rows come together. -/
def countBatch (db : Scripted) (i : StatementId) : Except Failure (List Int64) × Scripted :=
  let statement := db.statement i
  match (db.putStatement i { statement with added := 0 }).takeEach i statement.added with
  | (.error f, db) => (.error f, db)
  | (.ok executions, db) =>
    let keys := ResultSet.merge (executions.filterMap (·.keys))
    (.ok (executions.map (·.count)), db.putResults i { (db.statement i).results with keys })

/-! ## Cursors -/

def openCursor (db : Scripted) (i : StatementId) (c : CursorId) : Bool × Scripted :=
  let results := (db.statement i).results
  let db := db.putResults i results.withoutCurrent
  match results.current with
  | some (some set) => (true, db.putCursor c (.ofSet set))
  | _ => (false, db)

def openKeys (db : Scripted) (i : StatementId) (c : CursorId) : Scripted :=
  let results := (db.statement i).results
  (db.putResults i results.withoutKeys).putCursor c (.ofSet (results.keys.getD ⟨[], []⟩))

def stream (db : Scripted) (c : CursorId) (index : Nat) : Option Stream :=
  match (db.cursor c).cell index with
  | .ok (.stream content) => some content
  | _ => none

def object (db : Scripted) (c : CursorId) (index : Nat) : Except Failure Value :=
  ((db.cursor c).cell index).map Cell.plain

/-! ## All calls -/

def effect (db : Scripted) : (c : Call) → Except Failure c.Answer × Scripted
  | .acquire => (.ok (), db)
  | .prepare i _ _ _ => (.ok (), db.putStatement i {})
  | .autoCommit => (.ok db.autoCommit, db)
  | .setAutoCommit autoCommit => (.ok (), { db with autoCommit })
  | .isolation => (.ok db.isolation, db)
  | .setIsolation isolation => (.ok (), { db with isolation })
  | .setSavepoint =>
    let id := db.savepoints + 1
    (.ok ⟨id, s!"SP_{id}"⟩, { db with savepoints := id })
  | .rollbackTo _ | .releaseSavepoint _ | .commit => (.ok (), db)
  | .bind _ _ _ | .registerOut _ _ _ => (.ok (), db)
  | .setTimeout _ _ | .setPoolable _ _ | .setEscapeProcessing _ _ => (.ok (), db)
  | .setFetchSize _ _ | .setMaxRows _ _ => (.ok (), db)
  | .execute i => db.execute i
  | .executeUpdate i =>
    let (count, db) := db.count i
    (count.bind narrow, db)
  | .executeLargeUpdate i => db.count i
  | .addBatch i =>
    let statement := db.statement i
    (.ok (), db.putStatement i { statement with added := statement.added + 1 })
  | .executeBatch i =>
    let (counts, db) := db.countBatch i
    (counts.bind (·.mapM narrow), db)
  | .executeLargeBatch i => db.countBatch i
  | .resultCursor i c =>
    let (opened, db) := db.openCursor i c
    (.ok opened, db)
  | .moreResults i =>
    let (moved, results) := (db.statement i).results.advance
    (.ok moved, db.putResults i results)
  | .generatedKeys i c => (.ok (), db.openKeys i c)
  | .outValue i position _ => (.ok ((db.statement i).results.outValue position), db)
  | .closeStatement _ | .closeCursor _ => (.ok (), db)
  | .columns c => (.ok (db.cursor c).columns, db)
  | .next c =>
    let (moved, cursor) := (db.cursor c).next
    (.ok moved, db.putCursor c cursor)
  | .getObject c index => (db.object c index, db)
  | .getBinaryStream c index | .getCharacterStream c index => (.ok (db.stream c index), db)

/-! ## What is left to fetch -/

theorem supply_openCursor_le (db : Scripted) (i : StatementId) (c : CursorId) :
    (db.openCursor i c).2.supply ≤ db.supply := by
  have h1 := Results.supply_withoutCurrent RowSet.rowCount (db.statement i).results
  have h2 := supply_putResults db i (db.statement i).results.withoutCurrent
  simp only [openCursor]
  split
  · rename_i set hs
    have h3 := supply_putCursor (db.putResults i (db.statement i).results.withoutCurrent) c
      (.ofSet set)
    simp only [hs, Option.map_some, RowSet.rowCount, Option.getD_some, CursorState.ofSet] at *
    omega
  · simp only
    omega

theorem supply_openKeys_le (db : Scripted) (i : StatementId) (c : CursorId) :
    (db.openKeys i c).supply ≤ db.supply := by
  have h1 := Results.supply_withoutKeys RowSet.rowCount (db.statement i).results
  have h2 := supply_putResults db i (db.statement i).results.withoutKeys
  have h3 := supply_putCursor (db.putResults i (db.statement i).results.withoutKeys) c
    (.ofSet ((db.statement i).results.keys.getD ⟨[], []⟩))
  simp only [openKeys]
  cases hk : (db.statement i).results.keys <;>
    simp only [hk, Option.map_none, Option.map_some, Option.getD_none, Option.getD_some,
      CursorState.ofSet, List.length_nil] at h1 h3 ⊢ <;>
    omega

theorem supply_advance_le (db : Scripted) (i : StatementId) :
    (db.putResults i (db.statement i).results.advance.2).supply ≤ db.supply := by
  have h1 := Results.supply_advance_le RowSet.rowCount (db.statement i).results
  have h2 := supply_putResults db i (db.statement i).results.advance.2
  omega

theorem supply_advance_lt (db : Scripted) (i : StatementId)
    (h : (db.statement i).results.advance.1 = true) :
    (db.putResults i (db.statement i).results.advance.2).supply < db.supply := by
  have h1 := Results.supply_advance_lt RowSet.rowCount (db.statement i).results h
  have h2 := supply_putResults db i (db.statement i).results.advance.2
  omega

theorem supply_next_le (db : Scripted) (c : CursorId) :
    (db.putCursor c (db.cursor c).next.2).supply ≤ db.supply := by
  have h1 := (db.cursor c).ahead_next_le
  have h2 := supply_putCursor db c (db.cursor c).next.2
  omega

theorem supply_next_lt (db : Scripted) (c : CursorId) (h : (db.cursor c).next.1 = true) :
    (db.putCursor c (db.cursor c).next.2).supply < db.supply := by
  have h1 := (db.cursor c).ahead_next_lt h
  have h2 := supply_putCursor db c (db.cursor c).next.2
  omega

theorem supply_putStatement_of_results (db : Scripted) (i : StatementId)
    (statement : ScriptedStatement) (h : statement.results = (db.statement i).results) :
    (db.putStatement i statement).supply = db.supply := by
  have := Registry.total_put (fun s : ScriptedStatement => s.results.supply RowSet.rowCount) i
    statement {} rfl db.statements
  simp only [h, supply, putStatement, Scripted.statement] at *
  omega

theorem supply_prepare_le (db : Scripted) (i : StatementId) :
    (db.putStatement i {}).supply ≤ db.supply := by
  have := Registry.total_put_le (fun s : ScriptedStatement => s.results.supply RowSet.rowCount) i
    {} db.statements
  simp only [supply, putStatement] at *
  simpa [Results.supply, Results.ahead] using this

theorem supply_effect_le (db : Scripted) (c : Call) (h : c.executes = false) :
    (db.effect c).2.supply ≤ db.supply := by
  cases c with
  | prepare i => exact supply_prepare_le db i
  | addBatch i => exact Nat.le_of_eq (supply_putStatement_of_results db i _ rfl)
  | resultCursor i c => exact supply_openCursor_le db i c
  | moreResults i => exact supply_advance_le db i
  | generatedKeys i c => exact supply_openKeys_le db i c
  | next c => exact supply_next_le db c
  | execute | executeUpdate | executeLargeUpdate | executeBatch | executeLargeBatch => cases h
  | _ => exact Nat.le_refl _

end SqlGateway.Database.Scripted
