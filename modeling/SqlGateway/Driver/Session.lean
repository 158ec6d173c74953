import SqlGateway.Driver.Basic
import SqlGateway.Error

/-!
# Sessions

A session is a database in use: its state, how many statements and cursors have been made, and
the log. An act changes the session and may fail; what it has changed by then stays. Statements and
cursors are named by counting the ones that were made, so no name is used twice.
-/

namespace SqlGateway

inductive LogLevel where
  | debug
  | warn
  deriving DecidableEq, Repr

structure LogEntry where
  level : LogLevel
  text : String
  deriving DecidableEq, Repr

structure Session (σ : Type) where
  database : σ
  statements : Nat := 0
  cursors : Nat := 0
  log : List LogEntry := []

/-- What is done in a session and cannot fail. -/
abbrev Plain (σ α : Type) := StateM (Session σ) α

/-- What is done in a session and may fail with an `ε`. -/
abbrev Act (σ ε α : Type) := ExceptT ε (StateM (Session σ)) α

variable {σ α : Type}

namespace Session

def note (level : LogLevel) (text : String) : Plain σ Unit :=
  modify fun s => { s with log := s.log ++ [⟨level, text⟩] }

def debug (text : String) : Plain σ Unit := note .debug text

def warn (text : String) : Plain σ Unit := note .warn text

end Session

def surfaced (act : Act σ Failure α) : Act σ Error α :=
  ExceptT.adapt Error.ofFailure act

/-- Does an act whose failure is only worth a warning. -/
def orWarn (act : Act σ Failure Unit) (what : String) : Plain σ Unit := do
  match ← act.run with
  | .ok () => return ()
  | .error f => Session.warn s!"{what}: {f.message}"

namespace Driver

variable (d : Driver σ)

def ask (p : Probe) : Plain σ Bool := fun s =>
  let (answer, database) := d.probe p s.database
  (answer, { s with database })

def perform (c : Call) : Act σ Failure c.Answer := ExceptT.mk fun s =>
  let (answer, database) := d.call c s.database
  (answer, { s with database })

/-! ## Making statements and cursors -/

def prepare (sql : String) (kind : StatementKind) (keys : GeneratedKeys) :
    Act σ Failure StatementId := do
  let id : StatementId := ⟨(← get).statements + 1⟩
  d.perform (.prepare id sql kind keys)
  modify fun s => { s with statements := id.number }
  return id

def openCursor (statement : StatementId) : Act σ Failure (Option CursorId) := do
  let id : CursorId := ⟨(← get).cursors + 1⟩
  if ← d.perform (.resultCursor statement id) then
    modify fun s => { s with cursors := id.number }
    return some id
  else return none

def openKeys (statement : StatementId) : Act σ Failure CursorId := do
  let id : CursorId := ⟨(← get).cursors + 1⟩
  d.perform (.generatedKeys statement id)
  modify fun s => { s with cursors := id.number }
  return id

end Driver

end SqlGateway
