import SqlGateway.Cursor.Fetch
import SqlGateway.Execution.Guard
import SqlGateway.Execution.Options
import SqlGateway.Execution.Transaction
import SqlGateway.Sql.Rendering

/-!
# Updates

A statement runs once for each row of values, as a batch or row by row, and more than one row runs
in a transaction. The outcome is the number of rows changed, or what the caller makes of the keys
that were generated.
-/

namespace SqlGateway

/-- What a reported count adds to the total: a negative one, which says nothing, adds nothing. -/
def countRows (count : Int64) : UInt64 :=
  .ofNat count.toInt.toNat

def checkArity (rows : List (List Value)) : Except Error Unit :=
  let expected := (rows.head?.map List.length).getD 0
  match rows.findIdx? (·.length != expected) with
  | some i => .error (.misuse (.rowWidth (i + 1) (rows.getD i []).length expected))
  | none => .ok ()

namespace Driver

variable {σ α β : Type} (d : Driver σ)

def bindFrom (i : StatementId) (position : Nat) : List Value → Act σ Failure Unit
  | [] => pure ()
  | value :: values => do
    d.perform (.bind i position value)
    bindFrom i (position + 1) values

def bindValues (i : StatementId) (values : List Value) : Act σ Failure Unit :=
  d.bindFrom i 1 values

def addRows (i : StatementId) : List (List Value) → Act σ Failure Unit
  | [] => pure ()
  | row :: rows => do
    d.bindValues i row
    d.perform (.addBatch i)
    addRows i rows

def executeRow (i : StatementId) (large : Bool) : Act σ Failure Int64 :=
  if large then d.perform (.executeLargeUpdate i)
  else Int32.toInt64 <$> d.perform (.executeUpdate i)

def countEach (i : StatementId) (large : Bool) (total : UInt64) :
    List (List Value) → Act σ Failure UInt64
  | [] => return total
  | row :: rows => do
    d.bindValues i row
    let count ← d.executeRow i large
    countEach i large (total + countRows count) rows

def runRows (i : StatementId) (rows : List (List Value)) (large batch : Bool) :
    Act σ Failure UInt64 := do
  if batch then
    d.addRows i rows
    let counts ← d.perform (.executeLargeBatch i)
    return counts.foldl (fun total count => total + countRows count) 0
  else d.countEach i large 0 rows

def readKeys (i : StatementId) (mapper : RowMapper α) : Act σ Error (List α) := do
  d.drain mapper (← surfaced (d.openKeys i))

def keysEach (i : StatementId) (large : Bool) (mapper : RowMapper α) :
    List (List Value) → Act σ Error (List α)
  | [] => return []
  | row :: rows => do
    surfaced (d.bindValues i row)
    discard (surfaced (d.executeRow i large))
    let keys ← d.readKeys i mapper
    return keys ++ (← keysEach i large mapper rows)

def runKeys (i : StatementId) (rows : List (List Value)) (large batch : Bool)
    (mapper : RowMapper α) : Act σ Error (List α) := do
  if batch then
    surfaced (d.addRows i rows)
    discard (surfaced (d.perform (.executeLargeBatch i)))
    d.readKeys i mapper
  else d.keysEach i large mapper rows

/-- Whether rows are sent as a batch: where it is asked for, of use and supported. -/
def useBatch (rows : List (List Value)) (options : Options) : Plain σ Bool :=
  if options.batch && 1 < rows.length then d.ask .supportsBatch else return false

def runUpdate (sql : String) (keys : GeneratedKeys) (rows : List (List Value))
    (options : Options) (action : StatementId → Bool → Act σ Error α) : Act σ Error α := do
  let (a, guard) ← d.runStatement sql .dml keys (d.applyOptions · options) fun i => do
    action i (← ExceptT.lift (d.useBatch rows options))
  d.closeGuard guard
  return a

/-- Several rows run in a transaction. -/
def transacted (rows : List (List Value)) (options : Options) (act : Act σ Error α) :
    Act σ Error α :=
  if 1 < rows.length then d.inTransaction options.isolation act else act

def executeUpdate (sql : String) (rows : List (List Value)) (options : Options) :
    Act σ Error UInt64 := do
  MonadExcept.ofExcept (checkArity rows)
  if rows.isEmpty then
    ExceptT.lift (Session.debug s!"Skipping empty batch: {sql}")
    return 0
  ExceptT.lift (Session.debug s!"Executing update: {Sql.renderBatch sql rows}")
  d.transacted rows options
    (d.runUpdate sql .none rows options fun i batch =>
      surfaced (d.runRows i rows options.large batch))

def executeUpdateWithKeys (sql : String) (rows : List (List Value)) (options : Options)
    (keys : GeneratedKeys) (mapper : RowMapper α) (aggregate : List α → β) :
    Act σ Error β := do
  MonadExcept.ofExcept (checkArity rows)
  if rows.isEmpty then
    ExceptT.lift (Session.debug s!"Skipping empty batch: {sql}")
    return aggregate []
  let keys := if keys.isRequested then keys else .all
  ExceptT.lift (Session.debug s!"Executing update with keys: {Sql.renderBatch sql rows}")
  let collected ← d.transacted rows options
    (d.runUpdate sql keys rows options fun i batch =>
      d.runKeys i rows options.large batch mapper)
  return aggregate collected

end Driver

end SqlGateway
