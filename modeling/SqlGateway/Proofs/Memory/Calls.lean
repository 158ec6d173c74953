import SqlGateway.Database.Memory.Driver
import SqlGateway.Proofs.Act.Execution
import SqlGateway.Proofs.Settings.Basic

/-!
# What calls leave alone

A call on an in-memory database changes little of it. Which statements and cursors are open and how
many they are only changes where one is opened or closed, and what surrounds them only changes with
calls about transactions.
-/

namespace SqlGateway.Database.Memory

/-! ## Statements and cursors -/

theorem statement_putStatement (db : Memory) (i j : StatementId) (statement : MemoryStatement) :
    (db.putStatement i statement).statement j = if i = j then statement else db.statement j := by
  unfold Memory.statement putStatement
  split
  · rename_i h
    subst h
    rw [Registry.get?_put]
    rfl
  · rename_i h
    rw [Registry.get?_put_of_ne h]

theorem cursor_putCursor (db : Memory) (c k : CursorId) (cursor : CursorState Value) :
    (db.putCursor c cursor).cursor k = if c = k then cursor else db.cursor k := by
  unfold Memory.cursor putCursor
  split
  · rename_i h
    subst h
    rw [Registry.get?_put]
    rfl
  · rename_i h
    rw [Registry.get?_put_of_ne h]

/-- Whether a statement or cursor was closed. -/
def closedAt (db : Memory) : Handle → Bool
  | .statement i => (db.statement i).closed
  | .cursor c => (db.cursor c).closed

theorem closedAt_putStatement (db : Memory) (i : StatementId) (statement : MemoryStatement)
    (x : Handle) :
    (db.putStatement i statement).closedAt x =
      if x = .statement i then statement.closed else db.closedAt x := by
  cases x with
  | cursor c => rfl
  | statement j =>
      change ((db.putStatement i statement).statement j).closed = _
      rw [statement_putStatement]
      by_cases hj : i = j
      · rw [if_pos hj, if_pos (congrArg _ hj.symm)]
      · rw [if_neg hj, if_neg fun h => hj (Handle.statement.inj h).symm]
        rfl

theorem closedAt_putCursor (db : Memory) (c : CursorId) (cursor : CursorState Value)
    (x : Handle) :
    (db.putCursor c cursor).closedAt x =
      if x = .cursor c then cursor.closed else db.closedAt x := by
  cases x with
  | statement i => rfl
  | cursor k =>
      change ((db.putCursor c cursor).cursor k).closed = _
      rw [cursor_putCursor]
      by_cases hk : c = k
      · rw [if_pos hk, if_pos (congrArg _ hk.symm)]
      · rw [if_neg hk, if_neg fun h => hk (Handle.cursor.inj h).symm]
        rfl

/-- What is kept of the statements and cursors that are open. -/
structure Tally where
  closed : Handle → Bool
  statements : Nat
  cursors : Nat

def tally (db : Memory) : Tally :=
  ⟨db.closedAt, db.openStatements, db.openCursors⟩

theorem tally_putStatement (db : Memory) {i : StatementId} {s : MemoryStatement}
    (h : s.closed = (db.statement i).closed) : (db.putStatement i s).tally = db.tally := by
  refine congrArg (Tally.mk · _ _) (funext fun x => ?_)
  rw [closedAt_putStatement]
  split
  · rename_i hx
    rw [h, hx]
    rfl
  · rfl

theorem tally_putCursor (db : Memory) {c : CursorId} {k : CursorState Value}
    (h : k.closed = (db.cursor c).closed) : (db.putCursor c k).tally = db.tally := by
  refine congrArg (Tally.mk · _ _) (funext fun x => ?_)
  rw [closedAt_putCursor]
  split
  · rename_i hx
    rw [h, hx]
    rfl
  · rfl

theorem tally_run (db : Memory) (i : StatementId) (values : List Value) :
    (db.run i values).2.tally = db.tally := by
  unfold run
  dsimp only
  split
  · rfl
  · split
    · exact tally_putStatement _ rfl
    · rfl

theorem tally_runEach (db : Memory) (i : StatementId) (rows : List (List Value)) :
    (db.runEach i rows).2.tally = db.tally := by
  induction rows generalizing db with
  | nil => rfl
  | cons values rows ih =>
      have hr := db.tally_run i values
      unfold runEach
      split
      · rename_i h
        rwa [h] at hr
      · rename_i h
        rw [h] at hr
        exact (ih _).trans hr

theorem tally_execute (db : Memory) (i : StatementId) : (db.execute i).2.tally = db.tally := by
  have hr := db.tally_run i (db.statement i).values
  unfold execute
  split
  · rename_i h
    rwa [h] at hr
  · rename_i h
    rw [h] at hr
    refine Eq.trans (tally_putStatement _ ?_) hr
    rfl

theorem tally_countBatch (db : Memory) (i : StatementId) :
    (db.countBatch i).2.tally = db.tally := by
  have hp := db.tally_putStatement (i := i) (s := { db.statement i with added := [] }) rfl
  have hr := (db.putStatement i { db.statement i with added := [] }).tally_runEach i
    (db.statement i).added
  unfold countBatch
  split
  · dsimp only
    split
    · rename_i h
      rw [h] at hr
      exact hr.trans hp
    · rename_i h
      rw [h] at hr
      refine Eq.trans (tally_putStatement _ ?_) (hr.trans hp)
      rfl
  · rfl

/-- Only opening and closing changes what is open. -/
theorem tally_call (db : Memory) {c : Call} (hc : c.movesHandles = false) :
    (call c db).2.tally = db.tally := by
  cases c with
  | prepare | resultCursor | generatedKeys | closeStatement | closeCursor => cases hc
  | setAutoCommit enabled =>
      simp only [call, switchAutoCommit]
      split <;> rfl
  | rollbackTo savepoint =>
      simp only [call, rollbackTo]
      split <;> rfl
  | bind i position value => exact tally_putStatement db rfl
  | registerOut i position type => exact tally_putStatement db rfl
  | addBatch i => exact tally_putStatement db rfl
  | execute i => exact tally_execute db i
  | executeUpdate i => exact tally_run db i _
  | executeLargeUpdate i => exact tally_run db i _
  | executeBatch i => exact tally_countBatch db i
  | executeLargeBatch i => exact tally_countBatch db i
  | moreResults i => exact tally_putStatement db rfl
  | next c =>
      simp only [call, next]
      split
      · rfl
      · refine tally_putCursor db ?_
        unfold CursorState.next
        split <;> rfl
  | _ => rfl

/-! ## Surroundings -/

def stored (db : Memory) : Stored :=
  ⟨db.autoCommit, db.isolation⟩

def commits (db : Memory) : Nat :=
  db.events.count .commit

/-- What the calls of a transaction have to do with, apart from the table. -/
structure Surroundings where
  procedures : Registry String Procedure
  stored : Stored
  refuseAutoCommit : Bool
  savepoints : List (Savepoint × Table)
  savepointsMade : Nat
  commits : Nat

def surroundings (db : Memory) : Surroundings :=
  ⟨db.procedures, db.stored, db.refuseAutoCommit, db.savepoints, db.savepointsMade, db.commits⟩

theorem commits_record (db : Memory) {e : Event} (he : e ≠ .commit) :
    (db.record e).commits = db.commits := by
  unfold commits record
  rw [List.count_append, List.count_singleton]
  simp [he]

theorem commits_commit (db : Memory) : db.commit.commits = db.commits + 1 := by
  unfold commits commit record
  dsimp only
  rw [List.count_append, List.count_singleton_self]

theorem surroundings_record (db : Memory) {e : Event} (he : e ≠ .commit) :
    (db.record e).surroundings = db.surroundings :=
  congrArg (Surroundings.mk _ _ _ _ _) (commits_record db he)

theorem surroundings_run (db : Memory) (i : StatementId) (values : List Value) :
    (db.run i values).2.surroundings = db.surroundings := by
  unfold run
  dsimp only
  split
  · rfl
  · split <;> rfl

theorem surroundings_runEach (db : Memory) (i : StatementId) (rows : List (List Value)) :
    (db.runEach i rows).2.surroundings = db.surroundings := by
  induction rows generalizing db with
  | nil => rfl
  | cons values rows ih =>
      have hr := db.surroundings_run i values
      unfold runEach
      split
      · rename_i h
        rwa [h] at hr
      · rename_i h
        rw [h] at hr
        exact (ih _).trans hr

theorem surroundings_execute (db : Memory) (i : StatementId) :
    (db.execute i).2.surroundings = db.surroundings := by
  have hr := db.surroundings_run i (db.statement i).values
  unfold execute
  split <;> rename_i h <;> rw [h] at hr <;> exact hr

theorem surroundings_countBatch (db : Memory) (i : StatementId) :
    (db.countBatch i).2.surroundings = db.surroundings := by
  have hr := (db.putStatement i { db.statement i with added := [] }).surroundings_runEach i
    (db.statement i).added
  unfold countBatch
  split
  · dsimp only
    split <;> rename_i h <;> rw [h] at hr <;> exact hr
  · rfl

/-- Only calls about transactions change what surrounds the statements. -/
theorem surroundings_call (db : Memory) {c : Call} (hc : c.isTransactional = false) :
    (call c db).2.surroundings = db.surroundings := by
  cases c with
  | autoCommit | setAutoCommit | isolation | setIsolation | setSavepoint | rollbackTo
  | releaseSavepoint | commit => cases hc
  | prepare i sql kind keys =>
      simp only [call, prepare]
      split
      · rfl
      · split
        · rfl
        · exact surroundings_record (e := .prepare kind) (db.putStatement i _) (by simp)
  | setTimeout i timeout => exact surroundings_record db (by simp)
  | setFetchSize i rows => exact surroundings_record db (by simp)
  | setMaxRows i rows => exact surroundings_record db (by simp)
  | execute i => exact surroundings_execute db i
  | executeUpdate i => exact surroundings_run db i _
  | executeLargeUpdate i => exact surroundings_run db i _
  | executeBatch i => exact surroundings_countBatch db i
  | executeLargeBatch i => exact surroundings_countBatch db i
  | resultCursor i c =>
      simp only [call, openCursor]
      split <;> rfl
  | generatedKeys i c =>
      simp only [call, openKeys]
      split <;> rfl
  | closeStatement i =>
      simp only [call, closeStatement]
      split <;> rfl
  | next c =>
      simp only [call, next]
      split <;> rfl
  | closeCursor c =>
      simp only [call, closeCursor]
      split <;> rfl
  | _ => rfl

end SqlGateway.Database.Memory
