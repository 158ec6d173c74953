import SqlGateway.Client.Call
import SqlGateway.Gateway.Run

/-!
# Steps of a client

What a client does next: an operation through its gateway, work on a statement that it guards
itself, or calls on the connection. Cursors and guards that it keeps have numbers of its choice.
`α` is what its mappers and handlers give, `σ` the state of the database.
-/

namespace SqlGateway

/-! ## Operations through the gateway -/

inductive Fetch where
  | keep (id : Nat)
  | maps
  deriving DecidableEq, Repr

structure Setup where
  settings : Settings := {}
  print : Bool := false
  deriving DecidableEq, Repr

inductive SelectUse (α : Type) where
  | text
  | fetch (fetch : Fetch)
  | single (mapper : RowMapper α)

inductive UpdateUse (α : Type) where
  | text
  | execute
  | keys (keys : GeneratedKeys) (mapper : RowMapper α)

inductive CallUse (α : Type) where
  | text
  | fetch (fetch : Fetch)
  | invoke
  | invokeWith (mapper : OutMapper α)

inductive UpdateValues where
  | single (params : Params)
  | rows (rows : List (List Value))
  | namedRows (rows : List (Bindings Value))

inductive Operation (α : Type) where
  | select (sql : String) (params : Params) (setup : Setup) (use : SelectUse α)
  | update (sql : String) (values : UpdateValues) (setup : Setup) (use : UpdateUse α)
  | call (sql : String) (params : List Parameter) (setup : Setup)
      (handler : Option (OutMapper α)) (use : CallUse α)
  | execute (sql : String) (params : Params) (fetch : Fetch)
  | next (id : Nat) (reads : List (RowMapper α))
  | isClosed (id : Nat)
  | close (id : Nat)
  | drop (id : Nat)
  | maps (id : Nat)
  /-- Maps rows, at most as many as the limit says; the cursor is dropped unless it is kept. -/
  | map (id : Nat) (mapper : RowMapper α) (limit : Option Nat) (keep : Bool)

/-! ## Other steps -/

/-- Work on a statement that the client guards itself. -/
inductive GuardStep where
  | prepare (id : Nat) (sql : String) (kind : StatementKind) (keys : GeneratedKeys)
  | phase (id : Nat)
  | configure (id : Nat) (calls : List StatementCall)
  | run (id : Nat) (calls : List StatementCall)
  /-- Makes calls on the statement that a guard hands on, and closes it. -/
  | release (id : Nat) (calls : List StatementCall)
  | close (id : Nat)
  | drop (id : Nat)
  deriving DecidableEq

structure PlainUpdate where
  sql : String
  rows : List (List Value)
  options : Options := {}
  deriving DecidableEq

inductive Step (σ α : Type) where
  | operation (operation : Operation α)
  | guard (step : GuardStep)
  | update (update : PlainUpdate)
  | updateKeys (update : PlainUpdate) (keys : GeneratedKeys) (mapper : RowMapper α)
  /-- Updates in one transaction, which fails at the end if a text for that is given. -/
  | transaction (isolation : Option IsolationLevel) (updates : List PlainUpdate)
      (fail : Option String)
  | connection (calls : List ConnectionCall)
  | config
  /-- Something happens to the database that the client has no part in. -/
  | change (change : σ → σ)

/-! ## Replies -/

inductive Fetched where
  | cursor
  | maps (rows : List RowMap)

inductive Reply (α : Type) where
  | nothing
  | flag (b : Bool)
  | text (s : String)
  | datum (d : Datum)
  | fetched (fetched : Fetched)
  | single (mapped : Option α)
  | count (count : UInt64)
  | counts (counts : List UInt64)
  | keys (mapped : List α)
  | mapped (a : α)
  | executed (rowCount : Option UInt64) (rows : Option Fetched)
  | row (reads : Option (List (Except Error α)))
  | items (items : List (Except Error α))
  | config (config : Config)

inductive Refusal where
  | noHandle
  | error (error : Error)
  deriving DecidableEq, Repr

end SqlGateway
