import SqlGateway.Client.Access
import SqlGateway.Execution.Query

/-!
# Calls by hand

What a client may do with a statement, a cursor or a connection without a gateway, as data.
-/

namespace SqlGateway

variable {σ : Type}

/-! ## Cursors -/

inductive CursorCall where
  | columns
  | next
  | getObject (index : Nat)
  | close
  deriving DecidableEq, Repr

namespace CursorCall

def act (d : Driver σ) (c : CursorId) : CursorCall → Act σ Failure Datum
  | .columns => .columns <$> d.perform (.columns c)
  | .next => .flag <$> d.perform (.next c)
  | .getObject index => .value <$> d.perform (.getObject c index)
  | .close => Datum.ofUnit <$> d.perform (.closeCursor c)

/-- Makes all calls, also after one that failed. -/
def actAll (d : Driver σ) (calls : List CursorCall) (c : CursorId) : Plain σ Datum :=
  .results <$> calls.mapM fun call => (surfaced (call.act d c)).run

end CursorCall

/-! ## Statements -/

inductive StatementCall where
  | bindValues (values : List Value)
  | bindParameters (params : List Parameter)
  | applyOptions (options : Options)
  | registerOut (position : Nat) (type : SqlType)
  | execute
  | executeUpdate
  | executeLargeUpdate
  | addBatch
  | executeBatch
  | executeLargeBatch
  | moreResults
  | outValue (position : Nat) (type : SqlType)
  /-- Counts the columns of the generated keys, whose cursor stays open. -/
  | countKeyColumns
  | close
  | cursor (calls : List CursorCall)
  | keysCursor (calls : List CursorCall)
  | fail (text : String)
  deriving DecidableEq

namespace StatementCall

def act (d : Driver σ) (i : StatementId) : StatementCall → Act σ Error Datum
  | .bindValues values => surfaced (Datum.ofUnit <$> d.bindValues i values)
  | .bindParameters params => surfaced (.slots <$> d.bindParameters i params)
  | .applyOptions options => Datum.ofUnit <$> d.applyOptions i options
  | .registerOut position type => 
    surfaced (Datum.ofUnit <$> d.perform (.registerOut i position type))
  | .execute => surfaced (.flag <$> d.perform (.execute i))
  | .executeUpdate => surfaced do
    return .number (← d.perform (.executeUpdate i)).toInt
  | .executeLargeUpdate => surfaced do
    return .number (← d.perform (.executeLargeUpdate i)).toInt
  | .addBatch => surfaced (Datum.ofUnit <$> d.perform (.addBatch i))
  | .executeBatch => surfaced do
    return .ofCounts ((← d.perform (.executeBatch i)).map Int32.toInt)
  | .executeLargeBatch => surfaced do
    return .ofCounts ((← d.perform (.executeLargeBatch i)).map Int64.toInt)
  | .moreResults => surfaced (.flag <$> d.perform (.moreResults i))
  | .outValue position type => surfaced (.value <$> d.perform (.outValue i position type))
  | .countKeyColumns => surfaced do
    let columns ← d.perform (.columns (← d.openKeys i))
    return .number columns.length
  | .close => surfaced (Datum.ofUnit <$> d.perform (.closeStatement i))
  | .cursor calls => do
    match ← surfaced (d.openCursor i) with
    | some c => ExceptT.lift (CursorCall.actAll d calls c)
    | none => return .nothing
  | .keysCursor calls => do
    let c ← surfaced (d.openKeys i)
    ExceptT.lift (CursorCall.actAll d calls c)
  | .fail text => throw (.misuse (.caller text))

/-- Makes calls until one fails. -/
def actAll (d : Driver σ) (calls : List StatementCall) (i : StatementId) : Act σ Error Datum :=
  .list <$> calls.mapM (act d i)

end StatementCall

/-! ## Connections -/

inductive ConnectionCall where
  | isClosed
  /-- Prepares a statement and forgets it. -/
  | prepare (sql : String) (kind : StatementKind) (keys : GeneratedKeys)
  | autoCommit
  | setAutoCommit (enabled : Bool)
  | isolation
  | setIsolation (level : IsolationLevel)
  | supportsIsolation (level : IsolationLevel)
  | supportsBatch
  | setSavepoint
  | rollbackTo (savepoint : Savepoint)
  | releaseSavepoint (savepoint : Savepoint)
  | commit
  deriving DecidableEq, Repr

namespace ConnectionCall

def act (d : Driver σ) : ConnectionCall → Act σ Failure Datum
  | .isClosed => .flag <$> ExceptT.lift (d.ask .isClosed)
  | .prepare sql kind keys => do
    discard (d.prepare sql kind keys)
    return .nothing
  | .autoCommit => .flag <$> d.perform .autoCommit
  | .setAutoCommit enabled => Datum.ofUnit <$> d.perform (.setAutoCommit enabled)
  | .isolation => .level <$> d.perform .isolation
  | .setIsolation level => Datum.ofUnit <$> d.perform (.setIsolation level)
  | .supportsIsolation level => .flag <$> ExceptT.lift (d.ask (.supportsIsolation level))
  | .supportsBatch => .flag <$> ExceptT.lift (d.ask .supportsBatch)
  | .setSavepoint => .savepoint <$> d.perform .setSavepoint
  | .rollbackTo savepoint => Datum.ofUnit <$> d.perform (.rollbackTo savepoint)
  | .releaseSavepoint savepoint => Datum.ofUnit <$> d.perform (.releaseSavepoint savepoint)
  | .commit => Datum.ofUnit <$> d.perform .commit

def actAll (d : Driver σ) (calls : List ConnectionCall) : Plain σ Datum :=
  .results <$> calls.mapM fun call => (surfaced (call.act d)).run

end ConnectionCall

end SqlGateway
