import SqlGateway.Client.Basic

/-!
# Running the steps of a client
-/

namespace SqlGateway.Client

variable {σ α : Type} (d : Driver σ)

/-! ## Operations through the gateway -/

def maps (cursor : ResultCursor α) : Doing σ α (List RowMap) := do
  let (rows, cursor) ← advance cursor d.rowMaps
  plain (d.drop cursor)
  accept rows

def fetch (cursor : ResultCursor α) : Fetch → Doing σ α Fetched
  | .keep id => do
    keepCursor d id cursor
    return .cursor
  | .maps => return .maps (← maps d cursor)

def select (sql : String) (params : Params) (setup : Setup) (use : SelectUse α) :
    Doing σ α (Reply α) := do
  let query := (← accept ((← get).gateway.select sql params)).configure setup.settings
  if setup.print then print query.asSql
  match use with
  | .text => return .text query.asSql
  | .fetch wanted => return .fetched (← fetch d (← act (query.execute d)) wanted)
  | .single mapper => return .single (← act (query.single d mapper))

def buildUpdate (g : Gateway) (sql : String) : UpdateValues → Except Error Update
  | .single params => g.update sql params
  | .rows rows => g.updateBatch sql rows
  | .namedRows rows => g.updateNamedBatch sql rows

def update (sql : String) (values : UpdateValues) (setup : Setup) (use : UpdateUse α) :
    Doing σ α (Reply α) := do
  let update := (← accept (buildUpdate (← get).gateway sql values)).configure setup.settings
  if setup.print then print update.asSql
  match use with
  | .text => return .text update.asSql
  | .execute => return .count (← act (update.execute d))
  | .keys keys mapper => return .keys (← act (update.executeWithKeys d keys mapper id))

def call (sql : String) (params : List Parameter) (setup : Setup)
    (handler : Option (OutMapper α)) (use : CallUse α) : Doing σ α (Reply α) := do
  let built : ProcedureCall α ← accept ((← get).gateway.call sql params)
  let call := built.configure setup.settings
  if setup.print then print call.asSql
  let call := match handler with
    | some mapper => call.withOutHandler mapper
    | none => call
  match use with
  | .text => return .text call.asSql
  | .fetch wanted => return .fetched (← fetch d (← act (call.execute d)) wanted)
  | .invoke => do
    act (call.invoke d)
    return .nothing
  | .invokeWith mapper => return .mapped (← act (call.invokeWith d mapper))

def execute (sql : String) (params : Params) (wanted : Fetch) : Doing σ α (Reply α) := do
  let outcome : Outcome α ← act ((← get).gateway.execute d sql params)
  match outcome with
  | .rowCount count => return .executed (some count) none
  | .rows cursor => return .executed none (some (← fetch d cursor wanted))

def next (id : Nat) (reads : List (RowMapper α)) : Doing σ α (Reply α) := do
  let (row, cursor) ← advance (← cursor id) d.nextRow
  putCursor id cursor
  match ← accept row with
  | some current =>
    let results ← reads.mapM fun mapper =>
      plain (d.readRow current.cursor (mapper current.row)).run
    return .row (some results)
  | none => return .row none

def map (id : Nat) (mapper : RowMapper α) (limit : Option Nat) (keep : Bool) :
    Doing σ α (Reply α) := do
  let (items, cursor) ← advance (← takeCursor id) (d.mapRows mapper limit)
  if keep then putCursor id cursor else plain (d.drop cursor)
  return .items items

def operate : Operation α → Doing σ α (Reply α)
  | .select sql params setup use => select d sql params setup use
  | .update sql values setup use => update d sql values setup use
  | .call sql params setup handler use => call d sql params setup handler use
  | .execute sql params wanted => execute d sql params wanted
  | .next id reads => next d id reads
  | .isClosed id => return .flag (← cursor id).isClosed
  | .close id => do
    act (d.close (← takeCursor id))
    return .nothing
  | .drop id => do
    plain (d.drop (← takeCursor id))
    return .nothing
  | .maps id => return .fetched (.maps (← maps d (← takeCursor id)))
  | .map id mapper limit keep => map d id mapper limit keep

/-! ## Guards -/

/-- Makes calls on a statement and closes it. A failure of the calls comes first. -/
def callAndClose (calls : List StatementCall) (i : StatementId) : Act σ Error Datum := do
  let answers ← ExceptT.lift (StatementCall.actAll d calls i).run
  let closed ← ExceptT.lift (surfaced (d.perform (.closeStatement i))).run
  let datum ← MonadExcept.ofExcept answers
  MonadExcept.ofExcept closed
  return datum

def workOnGuard : GuardStep → Doing σ α (Reply α)
  | .prepare id sql kind keys => do
    keepGuard d id (← act (d.guardStatement sql kind keys))
    return .nothing
  | .phase id => return .text (← guarded id).phase.label
  | .configure id calls => do
    let guard ← guarded id
    return .datum (← act (guard.configure (StatementCall.actAll d calls)))
  | .run id calls => do
    let guard ← guarded id
    let (answers, guard) ← plain (guard.run (StatementCall.actAll d calls))
    putGuard id guard
    return .datum (← accept answers)
  | .release id calls => do
    let i ← act (d.releaseGuard (← takeGuard id))
    return .datum (← act (callAndClose d calls i))
  | .close id => do
    act (d.closeGuard (← takeGuard id))
    return .nothing
  | .drop id => do
    plain (d.dropGuard (← takeGuard id))
    return .nothing

/-! ## All steps -/

/-- Updates one after another, and the failure that is asked for. -/
def updates (updates : List PlainUpdate) (fail : Option String) : Act σ Error (List UInt64) := do
  let counts ← updates.mapM fun u => d.executeUpdate u.sql u.rows u.options
  match fail with
  | some text => throw (.execution (.caller text))
  | none => return counts

def takeStep : Step σ α → Doing σ α (Reply α)
  | .operation operation => operate d operation
  | .guard step => workOnGuard d step
  | .update u => return .count (← act (d.executeUpdate u.sql u.rows u.options))
  | .updateKeys u keys mapper =>
    return .keys (← act (d.executeUpdateWithKeys u.sql u.rows u.options keys mapper id))
  | .transaction isolation us fail =>
    return .counts (← act (d.inTransaction isolation (updates d us fail)))
  | .connection calls => return .datum (← plain (ConnectionCall.actAll d calls))
  | .config => return .config (← get).gateway.config
  | .change f => do
    modify fun client =>
      { client with session := { client.session with database := f client.session.database } }
    return .nothing

def step (s : Step σ α) (client : Client σ α) : Except Refusal (Reply α) × Client σ α :=
  (takeStep d s).run client

/-- Gives up everything that is kept, cursors before guards and each in the order of the numbers. -/
def finish (client : Client σ α) : Client σ α :=
  let ordered {β : Type} (kept : Registry Nat β) : List β :=
    (kept.mergeSort fun a b => a.1 ≤ b.1).map (·.2)
  let dropAll : Plain σ Unit := do
    (ordered client.cursors).forM d.drop
    (ordered client.guards).forM d.dropGuard
  { client with session := (dropAll client.session).2, cursors := [], guards := [] }

end SqlGateway.Client
