import SqlGateway.Database.Memory.Effect
import SqlGateway.Driver.Basic

/-!
# The driver of an in-memory database
-/

namespace SqlGateway.Database.Memory

def probe (p : Probe) (db : Memory) : Bool × Memory :=
  match p with
  | .isClosed => (db.closed, db)
  | .supportsIsolation level => (level ∈ [IsolationLevel.readCommitted, .serializable], db)
  | .supportsBatch => (db.batch, db)

def update (db : Memory) (i : StatementId) (f : MemoryStatement → MemoryStatement) : Memory :=
  db.putStatement i (f (db.statement i))

def object (db : Memory) (c : CursorId) (index : Nat) : Except Failure Value :=
  (db.cursor c).cell index

def call : (c : Call) → Memory → Except Failure c.Answer × Memory
  | .acquire, db => (.ok (), db)
  | .prepare i sql kind keys, db => db.prepare i sql kind keys
  | .autoCommit, db => (.ok db.autoCommit, db)
  | .setAutoCommit enabled, db => db.switchAutoCommit enabled
  | .isolation, db => (.ok db.isolation, db)
  | .setIsolation isolation, db => (.ok (), { db.record (.isolation isolation) with isolation })
  | .setSavepoint, db =>
    let (savepoint, db) := db.setSavepoint
    (.ok savepoint, db)
  | .rollbackTo savepoint, db => db.rollbackTo savepoint
  | .releaseSavepoint savepoint, db => (.ok (), db.release savepoint)
  | .commit, db => (.ok (), db.commit)
  | .bind i position value, db =>
    (.ok (), db.update i (·.bind position value))
  | .registerOut i position type, db =>
    (.ok (), db.update i fun s => { s with registered := s.registered.put position type })
  | .setTimeout _ timeout, db => (.ok (), db.record (.timeout timeout.seconds))
  | .setPoolable _ _, db => (.error (.unsupported "statement pooling hint"), db)
  | .setEscapeProcessing _ _, db => (.ok (), db)
  | .setFetchSize _ rows, db => (.ok (), db.record (.fetchSize rows))
  | .setMaxRows _ rows, db => (.ok (), db.record (.maxRows rows))
  | .execute i, db => db.execute i
  | .executeUpdate i, db =>
    let (count, db) := db.count i
    (count.bind narrow, db)
  | .executeLargeUpdate i, db => db.count i
  | .addBatch i, db => (.ok (), db.update i fun s => { s with added := s.added ++ [s.values] })
  | .executeBatch i, db =>
    let (counts, db) := db.countBatch i
    (counts.bind (·.mapM narrow), db)
  | .executeLargeBatch i, db => db.countBatch i
  | .resultCursor i c, db =>
    let (opened, db) := db.openCursor i c
    (.ok opened, db)
  | .moreResults i, db =>
    let (moved, db) := db.advance i
    (.ok moved, db)
  | .generatedKeys i c, db => db.openKeys i c
  | .outValue i position type, db => (db.outValue i position type, db)
  | .closeStatement i, db => (.ok (), db.closeStatement i)
  | .columns c, db => (.ok (db.cursor c).columns, db)
  | .next c, db => db.next c
  | .getObject c index, db => (db.object c index, db)
  | .getBinaryStream c index, db => (binaryStream (db.object c index), db)
  | .getCharacterStream c index, db => (characterStream (db.object c index), db)
  | .closeCursor c, db => (.ok (), db.closeCursor c)

/-! ## What is left to fetch -/

theorem supply_probe (p : Probe) (db : Memory) : (probe p db).2.supply ≤ db.supply := by
  cases p <;> exact Nat.le_refl _

theorem supply_update (db : Memory) (i : StatementId) (f : MemoryStatement → MemoryStatement)
    (h : ∀ s, (f s).results = s.results) : (db.update i f).supply = db.supply :=
  supply_putStatement_of_results db i _ (h _)

theorem supply_call (c : Call) (db : Memory) (h : c.executes = false) :
    (call c db).2.supply ≤ db.supply := by
  cases c with
  | prepare i sql kind keys => exact supply_prepare_le db i sql kind keys
  | setAutoCommit enabled => exact Nat.le_of_eq (supply_switchAutoCommit db enabled)
  | rollbackTo savepoint => exact Nat.le_of_eq (supply_rollbackTo db savepoint)
  | bind i position value => exact Nat.le_of_eq (supply_update db i _ fun _ => rfl)
  | registerOut i position type => exact Nat.le_of_eq (supply_update db i _ fun _ => rfl)
  | addBatch i => exact Nat.le_of_eq (supply_update db i _ fun _ => rfl)
  | resultCursor i c => exact supply_openCursor_le db i c
  | moreResults i => exact supply_advance_le db i
  | generatedKeys i c => exact supply_openKeys_le db i c
  | closeStatement i => exact Nat.le_of_eq (supply_closeStatement db i)
  | next c => exact supply_next_le db c
  | closeCursor c => exact supply_closeCursor_le db c
  | execute | executeUpdate | executeLargeUpdate | executeBatch | executeLargeBatch => cases h
  | _ => exact Nat.le_refl _

def driver : Driver Memory where
  probe
  call
  supply
  supply_call := supply_call
  supply_next c db := supply_next_lt db c
  supply_moreResults i db h := supply_advance_lt db i (Except.ok.inj h)
  supply_probe := supply_probe

end SqlGateway.Database.Memory
