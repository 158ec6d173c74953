import SqlGateway.Client.Step
import SqlGateway.Registry

/-!
# Clients

A client works on one session through a gateway. It keeps cursors and guards under numbers. A cursor
or guard that takes the place of another is made before the other is dropped.
-/

namespace SqlGateway

structure Client (σ α : Type) where
  session : Session σ
  gateway : Gateway := {}
  cursors : Registry Nat (ResultCursor α) := []
  guards : Registry Nat StatementGuard := []
  /-- What handlers for output parameters gave. -/
  fired : List α := []
  printed : List String := []

/-- What a client does, which may be refused. -/
abbrev Doing (σ α β : Type) := ExceptT Refusal (StateM (Client σ α)) β

namespace Client

variable {σ α β : Type}

def act (act : Act σ Error β) : Doing σ α β := ExceptT.mk fun client =>
  let (result, session) := act.run client.session
  (result.mapError .error, { client with session })

def plain (act : Plain σ β) : Doing σ α β :=
  Client.act (ExceptT.lift act)

def accept (result : Except Error β) : Doing σ α β :=
  ExceptT.mk (pure (result.mapError .error))

def found : Option β → Doing σ α β
  | some b => return b
  | none => throw .noHandle

def print (text : String) : Doing σ α Unit :=
  modify fun client => { client with printed := client.printed ++ [text] }

/-! ## Cursors -/

def cursor (id : Nat) : Doing σ α (ResultCursor α) := do
  found ((← get).cursors.get? id)

def putCursor (id : Nat) (cursor : ResultCursor α) : Doing σ α Unit :=
  modify fun client => { client with cursors := client.cursors.put id cursor }

def takeCursor (id : Nat) : Doing σ α (ResultCursor α) := do
  let cursor ← Client.cursor id
  modify fun client => { client with cursors := client.cursors.remove id }
  return cursor

def keepCursor (d : Driver σ) (id : Nat) (cursor : ResultCursor α) : Doing σ α Unit := do
  let old := (← get).cursors.get? id
  putCursor id cursor
  if let some old := old then plain (d.drop old)

/-- Moves a cursor on. What its handler gave on the way is noted. -/
def advance (cursor : ResultCursor α) (move : ResultCursor α → Plain σ (β × ResultCursor α)) :
    Doing σ α (β × ResultCursor α) := do
  let (b, after) ← plain (move cursor)
  if cursor.delivered.isNone then
    modify fun client => { client with fired := client.fired ++ after.delivered.toList }
  return (b, after)

/-! ## Guards -/

def guarded (id : Nat) : Doing σ α StatementGuard := do
  found ((← get).guards.get? id)

def putGuard (id : Nat) (guard : StatementGuard) : Doing σ α Unit :=
  modify fun client => { client with guards := client.guards.put id guard }

def takeGuard (id : Nat) : Doing σ α StatementGuard := do
  let guard ← guarded id
  modify fun client => { client with guards := client.guards.remove id }
  return guard

def keepGuard (d : Driver σ) (id : Nat) (guard : StatementGuard) : Doing σ α Unit := do
  let old := (← get).guards.get? id
  putGuard id guard
  if let some old := old then plain (d.dropGuard old)

end Client

end SqlGateway
