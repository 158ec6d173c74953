import SqlGateway.Driver.Session

/-!
# Statement guards

A guard holds a prepared statement for one execution. It may be configured before that, and it is
closed on every way out but one: once the execution has succeeded, the statement may be handed on.
-/

namespace SqlGateway

structure StatementGuard where
  statement : StatementId
  phase : StatementPhase := .prepared
  deriving DecidableEq, Repr

variable {σ α : Type}

namespace StatementGuard

def configure (guard : StatementGuard) (action : StatementId → Act σ Error α) :
    Act σ Error α :=
  if guard.phase = .prepared then action guard.statement
  else throw (.execution (.notConfigurable guard.phase))

/-- Does the one execution that a guard allows. -/
def run (guard : StatementGuard) (action : StatementId → Act σ Error α) :
    Plain σ (Except Error α × StatementGuard) :=
  if guard.phase = .prepared then do
    match ← (action guard.statement).run with
    | .ok a => return (.ok a, { guard with phase := .succeeded })
    | .error e => return (.error e, { guard with phase := .failed })
  else return (.error (.execution (.notExecutable guard.phase)), guard)

end StatementGuard

namespace Driver

variable (d : Driver σ)

def guardStatement (sql : String) (kind : StatementKind) (keys : GeneratedKeys) :
    Act σ Error StatementGuard := do
  if ← ExceptT.lift (d.ask .isClosed) then throw (.execution .connectionClosed)
  return ⟨← surfaced (d.prepare sql kind keys), .prepared⟩

/-- Closes the statement of a guard that is given up; a failure is only warned of. -/
def dropGuard (guard : StatementGuard) : Plain σ Unit :=
  orWarn (d.perform (.closeStatement guard.statement)) "Failed to close statement"

def closeGuard (guard : StatementGuard) : Act σ Error Unit :=
  surfaced (d.perform (.closeStatement guard.statement))

/-- Hands the statement on, if it was executed with success. -/
def releaseGuard (guard : StatementGuard) : Act σ Error StatementId := do
  if guard.phase = .succeeded then return guard.statement
  else
    ExceptT.lift (d.dropGuard guard)
    throw (.execution (.noResults guard.phase))

/-! ## Guards in one go -/

def dropOnError (guard : StatementGuard) (act : Act σ Error α) : Act σ Error α := do
  match ← ExceptT.lift act.run with
  | .ok a => return a
  | .error e =>
    ExceptT.lift (d.dropGuard guard)
    throw e

/-- Prepares, configures and runs a statement. If any of it fails the statement is closed. -/
def runStatement (sql : String) (kind : StatementKind) (keys : GeneratedKeys)
    (configure : StatementId → Act σ Error Unit) (action : StatementId → Act σ Error α) :
    Act σ Error (α × StatementGuard) := do
  let guard ← d.guardStatement sql kind keys
  d.dropOnError guard (guard.configure configure)
  let (outcome, guard) ← ExceptT.lift (guard.run action)
  let a ← d.dropOnError guard (MonadExcept.ofExcept outcome)
  return (a, guard)

end Driver

end SqlGateway
