import SqlGateway.Database.Scripted.Effect
import SqlGateway.Driver.Basic

/-!
# The driver of a scripted database

Each call is put on record, and then fails if that is planned for its turn. A database of a smaller
profile puts other calls in the place of those that it does not know, or refuses them.
-/

namespace SqlGateway.Database

def callName : Call → String
  | .acquire => "acquire"
  | .prepare .. => "prepare"
  | .autoCommit => "auto_commit"
  | .setAutoCommit _ => "set_auto_commit"
  | .isolation => "isolation"
  | .setIsolation _ => "set_isolation"
  | .setSavepoint => "set_savepoint"
  | .rollbackTo _ => "rollback_to"
  | .releaseSavepoint _ => "release_savepoint"
  | .commit => "commit"
  | .bind .. => "bind"
  | .registerOut .. => "register_out"
  | .setTimeout .. => "set_timeout"
  | .setPoolable .. => "set_poolable"
  | .setEscapeProcessing .. => "set_escape_processing"
  | .setFetchSize .. => "set_fetch_size"
  | .setMaxRows .. => "set_max_rows"
  | .execute _ => "execute"
  | .executeUpdate _ => "execute_update"
  | .executeLargeUpdate _ => "execute_large_update"
  | .addBatch _ => "add_batch"
  | .executeBatch _ => "execute_batch"
  | .executeLargeBatch _ => "execute_large_batch"
  | .resultCursor .. => "result_cursor"
  | .moreResults _ => "more_results"
  | .generatedKeys .. => "generated_keys"
  | .outValue .. => "out_value"
  | .closeStatement _ => "close_statement"
  | .columns _ => "columns"
  | .next _ => "next"
  | .getObject .. => "get_object"
  | .getBinaryStream .. => "get_binary_stream"
  | .getCharacterStream .. => "get_character_stream"
  | .closeCursor _ => "close_cursor"

/-- What is missing for a call: a statement of the bare profile can only be bound, executed and
closed. -/
def Profile.missing : Profile → Call → Option String
  | .bare, .registerOut .. => some "OUT parameter registration"
  | .bare, .setTimeout .. => some "statement timeout"
  | .bare, .setPoolable .. => some "statement pooling hint"
  | .bare, .setEscapeProcessing .. => some "escape processing"
  | .bare, .setFetchSize .. => some "fetch size"
  | .bare, .setMaxRows .. => some "max rows"
  | .bare, .addBatch _ | .bare, .executeBatch _ => some "batch updates"
  | .bare, .generatedKeys .. => some "generated keys"
  | .bare, .outValue .. => some "OUT parameter retrieval"
  | _, _ => none

def plannedFailure (faults : List Fault) (name : String) (turn : Nat) : Option Failure :=
  (faults.find? fun fault => fault.call == name && (fault.turn == turn || fault.turn == 0)).map
    (·.failure)

namespace Scripted

def probe (p : Probe) (db : Scripted) : Bool × Scripted :=
  match p, db.profile with
  | .supportsBatch, .bare => (false, db)
  | .isClosed, _ => (db.closed, db.record (.probe p))
  | .supportsIsolation level, _ => (level ∈ db.supported, db.record (.probe p))
  | .supportsBatch, _ => (db.batch, db.record (.probe p))

def attempt (c : Call) (db : Scripted) : Except Failure c.Answer × Scripted :=
  let turn := (db.turns.get? (callName c)).getD 0 + 1
  let db := { db.record (.call c) with turns := db.turns.put (callName c) turn }
  match plannedFailure db.faults (callName c) turn with
  | some f => (.error f, db)
  | none => db.effect c

def attemptKnown (c : Call) (db : Scripted) : Except Failure c.Answer × Scripted :=
  match db.profile.missing c with
  | some operation => (.error (.unsupported operation), db)
  | none => attempt c db

def attemptObject {α : Type} (convert : Except Failure Value → Except Failure α) (c : CursorId)
    (index : Nat) (db : Scripted) : Except Failure α × Scripted :=
  let (value, db) := attempt (.getObject c index) db
  (convert value, db)

/-- Does a call in the way of the profile. A cell with no long content is read as a plain value and
converted, also where a stream is asked for. -/
def call : (c : Call) → Scripted → Except Failure c.Answer × Scripted
  | .executeLargeUpdate i, db =>
    match db.profile with
    | .full => attempt (.executeLargeUpdate i) db
    | _ =>
      let (count, db) := attempt (.executeUpdate i) db
      (count.map Int32.toInt64, db)
  | .executeLargeBatch i, db =>
    match db.profile with
    | .full => attempt (.executeLargeBatch i) db
    | _ =>
      let (counts, db) := attemptKnown (.executeBatch i) db
      (counts.map (·.map Int32.toInt64), db)
  | .moreResults i, db =>
    match db.profile with
    | .bare => (.ok false, db)
    | _ => attempt (.moreResults i) db
  | .getBinaryStream c index, db =>
    match db.stream c index with
    | some _ => attempt (.getBinaryStream c index) db
    | none => attemptObject binaryStream c index db
  | .getCharacterStream c index, db =>
    match db.stream c index with
    | some _ => attempt (.getCharacterStream c index) db
    | none => attemptObject characterStream c index db
  | c, db => attemptKnown c db

/-! ## What is left to fetch -/

theorem supply_probe (p : Probe) (db : Scripted) : (probe p db).2.supply ≤ db.supply := by
  simp only [probe]
  split <;> exact Nat.le_refl _

theorem supply_attempt_le (c : Call) (db : Scripted) (h : c.executes = false) :
    (attempt c db).2.supply ≤ db.supply := by
  simp only [attempt]
  split
  · exact Nat.le_refl _
  · exact supply_effect_le _ c h

theorem supply_attemptKnown_le (c : Call) (db : Scripted) (h : c.executes = false) :
    (attemptKnown c db).2.supply ≤ db.supply := by
  simp only [attemptKnown]
  split
  · exact Nat.le_refl _
  · exact supply_attempt_le c db h

theorem supply_call (c : Call) (db : Scripted) (h : c.executes = false) :
    (call c db).2.supply ≤ db.supply := by
  cases c with
  | execute | executeUpdate | executeLargeUpdate | executeBatch | executeLargeBatch => cases h
  | moreResults i =>
    simp only [call]
    split
    · exact Nat.le_refl _
    · exact supply_attempt_le _ db rfl
  | getBinaryStream c index =>
    simp only [call]
    split
    · exact supply_attempt_le _ db rfl
    · exact supply_attempt_le (.getObject c index) db rfl
  | getCharacterStream c index =>
    simp only [call]
    split
    · exact supply_attempt_le _ db rfl
    · exact supply_attempt_le (.getObject c index) db rfl
  | _ => exact supply_attemptKnown_le _ db rfl

theorem supply_next (c : CursorId) (db : Scripted) (h : (call (.next c) db).1 = .ok true) :
    (call (.next c) db).2.supply < db.supply := by
  have hm : db.profile.missing (.next c) = none := by cases db.profile <;> rfl
  have hc : call (.next c) db = attempt (.next c) db := by simp only [call, attemptKnown, hm]
  rw [hc] at h ⊢
  simp only [attempt] at h ⊢
  split
  · rename_i f hf
    simp [hf] at h
  · rename_i hf
    simp only [hf, effect, Except.ok.injEq] at h
    exact supply_next_lt _ c h

theorem supply_moreResults (i : StatementId) (db : Scripted)
    (h : (call (.moreResults i) db).1 = .ok true) :
    (call (.moreResults i) db).2.supply < db.supply := by
  cases hp : db.profile with
  | bare => simp [call, hp] at h
  | full | narrow =>
    have hc : call (.moreResults i) db = attempt (.moreResults i) db := by simp only [call, hp]
    rw [hc] at h ⊢
    simp only [attempt] at h ⊢
    split
    · rename_i f hf
      simp [hf] at h
    · rename_i hf
      simp only [hf, effect, Except.ok.injEq] at h
      exact supply_advance_lt _ i h

def driver : Driver Scripted where
  probe
  call
  supply
  supply_call := supply_call
  supply_next := supply_next
  supply_moreResults := supply_moreResults
  supply_probe := supply_probe

end Scripted

end SqlGateway.Database
