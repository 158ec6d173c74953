import SqlGateway.Cursor.Fetch

/-!
# Result cursors

A result cursor delivers the rows of one statement, one at a time, through all the sets of rows that
the statement brings. The statement and the set that is open are closed after the last row, when a
call fails, when the caller's part fails, on `close`, or when the cursor is dropped, whichever comes
first; after that the cursor delivers nothing. A handler for the output parameters has its turn once
every set has been read to its end, before the statement is closed.
-/

namespace SqlGateway

/-- The handler for a call's output parameters, with what it gave once it has had its turn. -/
inductive OutHandler (τ : Type) where
  | unarmed
  | armed (mapper : OutMapper τ)
  | fired (delivered : Option τ)

instance [DecidableEq τ] (delivered : Option τ) :
    (handler : OutHandler τ) → Decidable (handler = .fired delivered)
  | .fired given => decidable_of_iff (given = delivered) (by simp)
  | .unarmed | .armed _ => isFalse nofun

structure ResultCursor (τ : Type) where
  statement : Option StatementId
  current : Option CursorId
  row : Option Row := none
  /-- Whether another set of rows was opened after that. -/
  stale : Bool := true
  slots : List OutSlot := []
  handler : OutHandler τ := .unarmed
  closed : Bool := false

structure CurrentRow where
  cursor : CursorId
  row : Row

namespace ResultCursor

variable {τ : Type}

def ofStatement (statement : StatementId) (current : Option CursorId) : ResultCursor τ :=
  { statement := some statement, current }

def withHandler (cursor : ResultCursor τ) (slots : List OutSlot)
    (mapper : Option (OutMapper τ)) : ResultCursor τ :=
  { cursor with
    slots
    handler := match mapper with
      | some mapper => .armed mapper
      | none => .unarmed }

def isClosed (cursor : ResultCursor τ) : Bool :=
  cursor.closed

def delivered (cursor : ResultCursor τ) : Option τ :=
  match cursor.handler with
  | .fired delivered => delivered
  | _ => none

/-- The row that a cursor shows, which takes an open set and its description. -/
def currentRow? (cursor : ResultCursor τ) : Option CurrentRow :=
  match cursor.current, cursor.row with
  | some c, some row => some ⟨c, row⟩
  | _, _ => none

/-- The cursor with the columns of its set. The readers are kept if the types stay the same. -/
def describe (cursor : ResultCursor τ) (columns : List Column) : ResultCursor τ :=
  { cursor with
    row := match cursor.row with
      | some known =>
        some (if known.sameTypes columns then { known with columns } else .ofColumns columns)
      | none => some (.ofColumns columns)
    stale := false }

end ResultCursor

/-! ## Looking for the next row -/

inductive Sought where
  /-- On a row; `switched` if another set of rows was opened on the way. -/
  | row (cursor : CursorId) (switched : Bool)
  | exhausted
  | failed (failure : Failure) (held : Option CursorId)

namespace Driver

variable {σ τ : Type} (d : Driver σ)

/-- Looks for the next row. A set that has no more is closed before the next one is asked for;
results that are no sets of rows are passed over. Without a statement there is no next one. -/
def seek (statement : Option StatementId) (current : Option CursorId) (switched : Bool)
    (s : Session σ) : Sought × Session σ :=
  match current, statement with
  | some c, _ =>
    match _hn : (d.perform (.next c)).run s with
    | (.ok true, s') => (.row c switched, s')
    | (.ok false, s') =>
      match _hc : (d.perform (.closeCursor c)).run s' with
      | (.ok _, s'') => seek statement none switched s''
      | (.error f, s'') => (.failed f none, s'')
    | (.error f, s') => (.failed f (some c), s')
  | none, some i =>
    match _hm : (d.perform (.moreResults i)).run s with
    | (.ok true, s') =>
      match _ho : (d.openCursor i).run s' with
      | (.ok (some c), s'') => seek statement (some c) true s''
      | (.ok none, s'') => seek statement none switched s''
      | (.error f, s'') => (.failed f none, s'')
    | (.ok false, s') => (.exhausted, s')
    | (.error f, s') => (.failed f none, s')
  | none, none => (.exhausted, s)
termination_by 2 * s.supply d + (if current.isSome then 1 else 0)
decreasing_by
  · have h1 := Frugal.le_of_eq (d := d) (Frugal.perform rfl) _hn
    have h2 := Frugal.le_of_eq (d := d) (Frugal.perform rfl) _hc
    simp
    omega
  · have h1 := supply_moreResults_lt _hm
    have h2 := Frugal.le_of_eq (d := d) (Frugal.openCursor i) _ho
    simp
    omega
  · have h1 := supply_moreResults_lt _hm
    have h2 := Frugal.le_of_eq (d := d) (Frugal.openCursor i) _ho
    simp
    omega

/-! ## Releasing -/

def release (cursor : ResultCursor τ) : Plain σ (ResultCursor τ) := do
  if let some c := cursor.current then
    orWarn (d.perform (.closeCursor c)) "Failed to close result cursor"
  if let some i := cursor.statement then
    orWarn (d.perform (.closeStatement i)) "Failed to close statement"
  return { cursor with statement := none, current := none, row := none, closed := true }

/-- Gives a cursor up: it is released unless it already was. -/
def drop (cursor : ResultCursor τ) : Plain σ Unit := do
  unless cursor.isClosed do
    discard (d.release cursor)

/-- Closes a cursor before its end. The handler has no turn; the first failure is reported. When the
cursor is dropped after that, nothing is left to be done. -/
def close (cursor : ResultCursor τ) : Act σ Error Unit := do
  let first ← match cursor.current with
    | some c => ExceptT.lift (surfaced (d.perform (.closeCursor c))).run
    | none => pure (.ok ())
  let second ← match cursor.statement with
    | some i => ExceptT.lift (surfaced (d.perform (.closeStatement i))).run
    | none => pure (.ok ())
  ExceptT.lift (d.drop { cursor with statement := none, current := none, closed := true })
  MonadExcept.ofExcept first
  MonadExcept.ofExcept second

/-! ## Rows -/

def failCursor (cursor : ResultCursor τ) (f : Failure) :
    Plain σ (Except Error (Option CurrentRow) × ResultCursor τ) := do
  let error := Error.ofFailure f
  Session.debug s!"Result cursor failed: {error.message}"
  return (.error error, ← d.release cursor)

def fireHandler (cursor : ResultCursor τ) : Plain σ (Except Error Unit × ResultCursor τ) := do
  match cursor.handler, cursor.statement with
  | .armed mapper, some i =>
    match ← (d.readOut i (mapper cursor.slots)).run with
    | .ok value => return (.ok (), { cursor with handler := .fired (some value) })
    | .error error => return (.error error, { cursor with handler := .fired none })
  | .armed _, none => return (.ok (), { cursor with handler := .fired none })
  | _, _ => return (.ok (), cursor)

def finish (cursor : ResultCursor τ) :
    Plain σ (Except Error (Option CurrentRow) × ResultCursor τ) := do
  let (fired, cursor) ← d.fireHandler cursor
  let cursor ← d.release cursor
  return (fired.map fun _ => none, cursor)

/-- Columns are asked for once in each set of rows. -/
def refreshRow (cursor : ResultCursor τ) : Act σ Failure (ResultCursor τ) := do
  match cursor.stale, cursor.current with
  | true, some c => return cursor.describe (← d.perform (.columns c))
  | _, _ => return cursor

/-- The row that a cursor has moved on to. -/
def describeRow (cursor : ResultCursor τ) :
    Plain σ (Except Error (Option CurrentRow) × ResultCursor τ) := do
  match ← (d.refreshRow cursor).run with
  | .error f => d.failCursor cursor f
  | .ok cursor => return (.ok cursor.currentRow?, cursor)

def nextRow (cursor : ResultCursor τ) :
    Plain σ (Except Error (Option CurrentRow) × ResultCursor τ) := do
  if cursor.closed then
    return (.ok none, cursor)
  match ← d.seek cursor.statement cursor.current cursor.stale with
  | .row c stale => d.describeRow { cursor with current := some c, stale }
  | .exhausted => d.finish { cursor with current := none }
  | .failed f held => d.failCursor { cursor with current := held } f

end Driver

end SqlGateway
