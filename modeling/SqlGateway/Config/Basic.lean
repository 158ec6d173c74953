import SqlGateway.Isolation
import SqlGateway.Json.Basic

/-!
# Configuration

The settings that every query starts from, and the names under which they are stored.
-/

namespace SqlGateway

structure Config where
  /-- The time that a statement may take; zero leaves it to the driver. -/
  timeoutSeconds : UInt64 := 0
  poolable : Bool := false
  escapeProcessing : Bool := true
  batch : Bool := false
  large : Bool := false
  isolation : Option IsolationLevel := none
  /-- The rows that the driver fetches at a time; zero leaves it to the driver. -/
  fetchSize : UInt32 := 0
  /-- The most rows that a query returns; zero sets no limit. -/
  maxRows : UInt64 := 0
  deriving DecidableEq, Repr

namespace Config

/-- The settings, in the order in which they are stored. -/
inductive Field where
  | timeoutSeconds
  | poolable
  | escapeProcessing
  | batch
  | large
  | isolation
  | fetchSize
  | maxRows
  deriving DecidableEq, Repr

namespace Field

def name : Field → String
  | .timeoutSeconds => "timeout_secs"
  | .poolable => "poolable"
  | .escapeProcessing => "escape_processing"
  | .batch => "batch"
  | .large => "large"
  | .isolation => "isolation"
  | .fetchSize => "fetch_size"
  | .maxRows => "max_rows"

def all : List Field :=
  [.timeoutSeconds, .poolable, .escapeProcessing, .batch, .large, .isolation, .fetchSize, .maxRows]

def ofName? (name : String) : Option Field :=
  all.find? (·.name == name)

end Field

end Config

end SqlGateway
