import SqlGateway.Failure
import SqlGateway.Isolation
import SqlGateway.SqlType
import SqlGateway.Statement.Kind
import SqlGateway.Value.Basic

/-!
# Calls to a driver

Everything that is asked of a database. A statement or a cursor is named by the caller when it is
made, as in a wire protocol, and later calls refer to it by that name. Positions of parameters and
indices of columns count from one.
-/

namespace SqlGateway

structure StatementId where
  number : Nat
  deriving DecidableEq, Repr

structure CursorId where
  number : Nat
  deriving DecidableEq, Repr

structure Column where
  name : String
  type : SqlType
  deriving DecidableEq, Repr

inductive GeneratedKeys where
  | none
  | all
  | columns (names : List String)
  | indices (positions : List Nat)
  deriving DecidableEq, Repr

def GeneratedKeys.isRequested : GeneratedKeys → Bool
  | .none => false
  | _ => true

structure Savepoint where
  id : Nat
  name : String
  deriving DecidableEq, Repr

/-- A length of time; the nanoseconds are less than a second. -/
structure Duration where
  seconds : Nat
  nanoseconds : Nat
  deriving DecidableEq, Repr

def Duration.ofParts (seconds nanoseconds : Nat) : Duration :=
  ⟨seconds + nanoseconds / 1000000000, nanoseconds % 1000000000⟩

/-- The content of a long column, which may turn out to be unreadable. -/
inductive Stream where
  | bytes (content : ByteArray)
  | broken (reason : String)
  deriving DecidableEq

/-- A question that a driver always answers. -/
inductive Probe where
  | isClosed
  | supportsIsolation (level : IsolationLevel)
  | supportsBatch
  deriving DecidableEq, Repr

inductive Call where
  | acquire
  | prepare (statement : StatementId) (sql : String) (kind : StatementKind) (keys : GeneratedKeys)
  | autoCommit
  | setAutoCommit (enabled : Bool)
  | isolation
  | setIsolation (level : IsolationLevel)
  | setSavepoint
  | rollbackTo (savepoint : Savepoint)
  | releaseSavepoint (savepoint : Savepoint)
  | commit
  | bind (statement : StatementId) (position : Nat) (value : Value)
  | registerOut (statement : StatementId) (position : Nat) (type : SqlType)
  | setTimeout (statement : StatementId) (timeout : Duration)
  | setPoolable (statement : StatementId) (poolable : Bool)
  | setEscapeProcessing (statement : StatementId) (enabled : Bool)
  | setFetchSize (statement : StatementId) (rows : UInt32)
  | setMaxRows (statement : StatementId) (rows : UInt64)
  | execute (statement : StatementId)
  | executeUpdate (statement : StatementId)
  | executeLargeUpdate (statement : StatementId)
  | addBatch (statement : StatementId)
  | executeBatch (statement : StatementId)
  | executeLargeBatch (statement : StatementId)
  | resultCursor (statement : StatementId) (cursor : CursorId)
  | moreResults (statement : StatementId)
  | generatedKeys (statement : StatementId) (cursor : CursorId)
  | outValue (statement : StatementId) (position : Nat) (type : SqlType)
  | closeStatement (statement : StatementId)
  | columns (cursor : CursorId)
  | next (cursor : CursorId)
  | getObject (cursor : CursorId) (index : Nat)
  | getBinaryStream (cursor : CursorId) (index : Nat)
  | getCharacterStream (cursor : CursorId) (index : Nat)
  | closeCursor (cursor : CursorId)
  deriving DecidableEq

namespace Call

abbrev Answer : Call → Type
  | .autoCommit | .execute _ | .resultCursor _ _ | .moreResults _ | .next _ => Bool
  | .isolation => IsolationLevel
  | .setSavepoint => Savepoint
  | .executeUpdate _ => Int32
  | .executeLargeUpdate _ => Int64
  | .executeBatch _ => List Int32
  | .executeLargeBatch _ => List Int64
  | .outValue _ _ _ | .getObject _ _ => Value
  | .columns _ => List Column
  | .getBinaryStream _ _ | .getCharacterStream _ _ => Option Stream
  | _ => Unit

/-- Whether a call runs a statement, and so may bring new results. -/
def executes : Call → Bool
  | .execute _ | .executeUpdate _ | .executeLargeUpdate _ | .executeBatch _
  | .executeLargeBatch _ => true
  | _ => false

end Call

end SqlGateway
