import SqlGateway.Cursor.Map
import SqlGateway.Execution.Query
import SqlGateway.Gateway.Basic

/-!
# Running what a gateway built

Queries, updates and procedure calls are configured, shown as text, and executed on a connection.
-/

namespace SqlGateway

open Sql

variable {σ τ α β : Type}

def Provider.connect (d : Driver σ) : Provider → Act σ Error Unit
  | .shared => pure ()
  | .onDemand => surfaced (d.perform .acquire)

/-! ## Queries -/

namespace Select

def configure (q : Select) (settings : Settings) : Select :=
  { q with options := q.options.forQuery settings }

def asSql (q : Select) : String :=
  render q.query.sql q.query.values

def execute (q : Select) (d : Driver σ) : Act σ Error (ResultCursor τ) := do
  q.provider.connect d
  d.executeQuery q.query.sql q.query.values q.options

/-- Maps the first row only, if there is one. -/
def single (q : Select) (d : Driver σ) (mapper : RowMapper α) : Act σ Error (Option α) := do
  let cursor : ResultCursor Empty ← q.execute d
  let (row, cursor) ← ExceptT.lift (d.nextRow cursor)
  let first ← match ← MonadExcept.ofExcept row with
    | some current =>
      match ← ExceptT.lift (d.readRow current.cursor (mapper current.row)).run with
      | .ok a => pure (some a)
      | .error e =>
        ExceptT.lift (d.drop cursor)
        throw e
    | none => pure none
  d.close cursor
  return first

end Select

/-! ## Updates -/

namespace Update

def configure (u : Update) (settings : Settings) : Update :=
  { u with options := u.options.forUpdate settings }

def asSql (u : Update) : String :=
  renderBatch u.sql u.rows

/-- The number of rows changed. -/
def execute (u : Update) (d : Driver σ) : Act σ Error UInt64 := do
  u.provider.connect d
  d.executeUpdate u.sql u.rows u.options

def executeWithKeys (u : Update) (d : Driver σ) (keys : GeneratedKeys) (mapper : RowMapper α)
    (aggregate : List α → β) : Act σ Error β := do
  u.provider.connect d
  d.executeUpdateWithKeys u.sql u.rows u.options keys mapper aggregate

end Update

/-! ## Procedure calls -/

namespace ProcedureCall

def configure (c : ProcedureCall τ) (settings : Settings) : ProcedureCall τ :=
  { c with options := c.options.forStatement settings }

def withOutHandler (c : ProcedureCall τ) (mapper : OutMapper τ) : ProcedureCall τ :=
  { c with handler := some mapper }

def asSql (c : ProcedureCall τ) : String :=
  renderCall c.sql c.params

def execute (c : ProcedureCall τ) (d : Driver σ) : Act σ Error (ResultCursor τ) := do
  c.provider.connect d
  d.executeCall c.sql c.params c.options c.handler

def invokeWith (c : ProcedureCall τ) (d : Driver σ) (mapper : OutMapper α) : Act σ Error α := do
  c.provider.connect d
  d.invokeCall c.sql c.params c.options mapper

def invoke (c : ProcedureCall τ) (d : Driver σ) : Act σ Error Unit :=
  c.invokeWith d fun _ => pure ()

end ProcedureCall

/-! ## Any text -/

inductive Outcome (τ : Type) where
  | rowCount (count : UInt64)
  | rows (cursor : ResultCursor τ)

namespace Gateway

def execute (g : Gateway) (d : Driver σ) (sql : String) (params : Params) :
    Act σ Error (Outcome τ) := do
  let query ← MonadExcept.ofExcept (build sql params)
  match classify query.sql with
  | .select => return .rows (← (Select.mk g.provider query g.options).execute d)
  | .dml => return .rowCount (← (Update.mk g.provider query.sql [query.values] g.options).execute d)
  | .procedureCall =>
    let call : ProcedureCall τ :=
      ⟨g.provider, query.sql, query.values.map Parameter.input, g.options, none⟩
    return .rows (← call.execute d)

end Gateway

end SqlGateway
