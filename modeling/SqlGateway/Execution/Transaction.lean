import SqlGateway.Driver.Session

/-!
# Transactions

An action runs between a savepoint and a commit, with auto-commit off and, where it is asked for,
different and supported, another isolation level. If anything fails the connection is rolled back
to the savepoint. Auto-commit and isolation are put back whatever the outcome.
-/

namespace SqlGateway.Driver

variable {σ α : Type} (d : Driver σ)

/-- Puts auto-commit and a changed isolation level back; a failure is only warned of. -/
def restore (autoCommit : Bool) (isolation : Option IsolationLevel) : Plain σ Unit := do
  orWarn (d.perform (.setAutoCommit autoCommit)) "Failed to restore auto-commit"
  if let some level := isolation then
    orWarn (d.perform (.setIsolation level)) s!"Failed to restore isolation {level.sqlName}"

/-- Undoes everything since the savepoint. -/
def abort (savepoint : Savepoint) (autoCommit : Bool) (isolation : Option IsolationLevel) :
    Plain σ Unit := do
  orWarn (d.perform (.rollbackTo savepoint)) s!"Failed to roll back to {savepoint.name}"
  orWarn (d.perform (.releaseSavepoint savepoint)) s!"Failed to release {savepoint.name}"
  d.restore autoCommit isolation

/-- Changes the isolation level if another one is asked for and supported, and gives the one to put
back. -/
def changeIsolation (wanted : Option IsolationLevel) (before : IsolationLevel) :
    Act σ Failure (Option IsolationLevel) := do
  let some level := wanted | return none
  if level = before then return none
  if ← ExceptT.lift (d.ask (.supportsIsolation level)) then
    d.perform (.setIsolation level)
    return some before
  else return none

def inTransaction (isolation : Option IsolationLevel) (action : Act σ Error α) :
    Act σ Error α := do
  let autoCommit ← surfaced (d.perform .autoCommit)
  let before ← surfaced (d.perform .isolation)
  surfaced (d.perform (.setAutoCommit false))
  match ← ExceptT.lift (d.perform .setSavepoint).run with
  | .error f =>
    ExceptT.lift (d.restore autoCommit none)
    throw (.ofFailure f)
  | .ok savepoint =>
    match ← ExceptT.lift (d.changeIsolation isolation before).run with
    | .error f =>
      ExceptT.lift (d.abort savepoint autoCommit none)
      throw (.ofFailure f)
    | .ok changed =>
      let committed : Act σ Error α := do
        let value ← action
        surfaced (d.perform .commit)
        return value
      match ← ExceptT.lift committed.run with
      | .ok value =>
        let restored ← ExceptT.lift (surfaced (d.perform (.setAutoCommit autoCommit))).run
        let reverted ← match changed with
          | some level => ExceptT.lift (surfaced (d.perform (.setIsolation level))).run
          | none => pure (.ok ())
        MonadExcept.ofExcept restored
        MonadExcept.ofExcept reverted
        return value
      | .error e =>
        ExceptT.lift (Session.debug s!"Rolling back to {savepoint.name}: {e.message}")
        ExceptT.lift (d.abort savepoint autoCommit changed)
        throw e

end SqlGateway.Driver
