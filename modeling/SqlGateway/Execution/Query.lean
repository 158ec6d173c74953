import SqlGateway.Cursor.Result
import SqlGateway.Execution.Update

/-!
# Queries and calls

A query gives a result cursor that owns its statement. So does a procedure call, whose output
parameters are left to a handler or, where only they are wanted, are read at once.
-/

namespace SqlGateway.Driver

variable {σ τ α : Type} (d : Driver σ)

/-! ## Queries -/

/-- Executes a statement and opens its first set of rows, if the first result is one. -/
def executeRows (i : StatementId) (values : List Value) : Act σ Failure (Option CursorId) := do
  d.bindValues i values
  if ← d.perform (.execute i) then d.openCursor i else return none

def executeQuery (sql : String) (values : List Value) (options : Options) :
    Act σ Error (ResultCursor τ) := do
  ExceptT.lift (Session.debug s!"Executing query: {Sql.render sql values}")
  let (current, guard) ← d.runStatement sql .select .none (d.applyOptions · options) fun i =>
    surfaced (d.executeRows i values)
  return .ofStatement (← d.releaseGuard guard) current

/-! ## Procedure calls -/

def bindParameter (i : StatementId) (position : Nat) (param : Parameter) : Act σ Failure Unit := do
  if let some value := param.value? then d.perform (.bind i position value)
  if let some type := param.outType? then d.perform (.registerOut i position type)

def bindParametersFrom (i : StatementId) (position : Nat) :
    List Parameter → Act σ Failure (List OutSlot)
  | [] => return []
  | param :: params => do
    d.bindParameter i position param
    let slots ← bindParametersFrom i (position + 1) params
    match param.outType? with
    | some type => return ⟨position, param.name, type⟩ :: slots
    | none => return slots

def bindParameters (i : StatementId) (params : List Parameter) : Act σ Failure (List OutSlot) :=
  d.bindParametersFrom i 1 params

/-- Prepares a call and executes it. Gives its output slots and whether the first result is a set of
rows, and the statement under its guard. -/
def executeCallStatement (sql : String) (params : List Parameter) (options : Options) :
    Act σ Error ((List OutSlot × Bool) × StatementGuard) := do
  ExceptT.lift (Session.debug s!"Executing call: {Sql.renderCall sql params}")
  d.runStatement sql .procedureCall .none (d.applyOptions · options) fun i => surfaced do
    let slots ← d.bindParameters i params
    return (slots, ← d.perform (.execute i))

def openCallRows (i : StatementId) (hasRows : Bool) : Act σ Error (Option CursorId) := do
  if hasRows then
    match ← ExceptT.lift (d.openCursor i).run with
    | .ok current => return current
    | .error f =>
      ExceptT.lift (orWarn (d.perform (.closeStatement i)) "Failed to close statement")
      throw (.ofFailure f)
  else return none

/-- Executes a call; its rows come through the cursor, its output values go to the handler. -/
def executeCall (sql : String) (params : List Parameter) (options : Options)
    (handler : Option (OutMapper τ)) : Act σ Error (ResultCursor τ) := do
  let ((slots, hasRows), guard) ← d.executeCallStatement sql params options
  let i ← d.releaseGuard guard
  let current ← d.openCallRows i hasRows
  return (ResultCursor.ofStatement i current).withHandler slots handler

def invokeCall (sql : String) (params : List Parameter) (options : Options)
    (mapper : OutMapper α) : Act σ Error α := do
  let ((slots, _), guard) ← d.executeCallStatement sql params options
  let mapped ← ExceptT.lift (d.readOut guard.statement (mapper slots)).run
  let closed ← ExceptT.lift (d.closeGuard guard).run
  let value ← MonadExcept.ofExcept mapped
  MonadExcept.ofExcept closed
  return value

end SqlGateway.Driver
