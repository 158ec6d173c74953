/-!
# Isolation levels
-/

namespace SqlGateway

/-- Transaction isolation, from the weakest to the strongest level. -/
inductive IsolationLevel where
  | readUncommitted
  | readCommitted
  | repeatableRead
  | serializable
  deriving DecidableEq, Repr

namespace IsolationLevel

def sqlName : IsolationLevel → String
  | .readUncommitted => "READ UNCOMMITTED"
  | .readCommitted => "READ COMMITTED"
  | .repeatableRead => "REPEATABLE READ"
  | .serializable => "SERIALIZABLE"

def storedName : IsolationLevel → String
  | .readUncommitted => "ReadUncommitted"
  | .readCommitted => "ReadCommitted"
  | .repeatableRead => "RepeatableRead"
  | .serializable => "Serializable"

def all : List IsolationLevel :=
  [.readUncommitted, .readCommitted, .repeatableRead, .serializable]

def ofStoredName? (name : String) : Option IsolationLevel :=
  all.find? (·.storedName == name)

def rank : IsolationLevel → Nat
  | .readUncommitted => 0
  | .readCommitted => 1
  | .repeatableRead => 2
  | .serializable => 3

instance : LT IsolationLevel := ⟨fun a b => a.rank < b.rank⟩

instance (a b : IsolationLevel) : Decidable (a < b) :=
  inferInstanceAs (Decidable (a.rank < b.rank))

end IsolationLevel

end SqlGateway
