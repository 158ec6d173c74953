import SqlGateway.Database.Memory.Procedure
import SqlGateway.Proofs.Act.Transaction
import SqlGateway.Proofs.Memory.Custody
import SqlGateway.Proofs.Memory.Rows

/-!
# Updates are all or nothing

An update of several rows runs in a transaction. If all goes well the procedure has been run for
each row and there has been one commit. If anything fails, of the rows, of the reading of keys or of
the commit, the copy that the savepoint keeps is put back, and nothing has changed.
-/

namespace SqlGateway.Database.Memory

/-! ## Databases that can come about -/

/-- From an empty database, calls and changes from outside lead there. -/
inductive Reachable : Memory → Prop
  | start : Reachable {}
  | call {db : Memory} (c : Call) : Reachable db → Reachable (call c db).2
  | define {db : Memory} (sql : String) (procedure : Procedure) :
      Reachable db → Reachable (db.define sql procedure)
  | disconnect {db : Memory} : Reachable db → Reachable db.disconnect
  | setBatch {db : Memory} (batch : Bool) : Reachable db → Reachable (db.setBatch batch)
  | refuse {db : Memory} : Reachable db → Reachable db.refuse

/-- Savepoints are numbered in the order in which they are made. -/
def Numbered (db : Memory) : Prop :=
  ∀ q ∈ db.savepoints, q.1.id ≤ db.savepointsMade

theorem numbered_call {db : Memory} (c : Call) (h : db.Numbered) : (call c db).2.Numbered := by
  by_cases hc : c.isTransactional = true
  · cases c with
    | setAutoCommit enabled =>
        simp only [call, switchAutoCommit]
        split
        · exact h
        · dsimp only [Numbered]
          split
          · exact List.forall_mem_nil _
          · exact h
    | setSavepoint =>
        intro q hq
        rcases List.mem_append.mp hq with hq | hq
        · exact Nat.le_succ_of_le (h q hq)
        · rw [List.mem_singleton.mp hq]
          exact Nat.le_refl _
    | rollbackTo savepoint =>
        simp only [call, rollbackTo]
        split <;> exact h
    | releaseSavepoint savepoint => exact fun q hq => h q (List.mem_filter.mp hq).1
    | commit => exact List.forall_mem_nil _
    | autoCommit | isolation | setIsolation => exact h
    | _ => cases hc
  · have hkept := surroundings_call db (Bool.eq_false_iff.mpr hc)
    intro q hq
    rw [show (call c db).2.savepoints = db.savepoints from
      congrArg Surroundings.savepoints hkept] at hq
    rw [show (call c db).2.savepointsMade = db.savepointsMade from
      congrArg Surroundings.savepointsMade hkept]
    exact h q hq

theorem Reachable.numbered {db : Memory} (h : Reachable db) : db.Numbered := by
  induction h with
  | start => exact List.forall_mem_nil _
  | call c _ ih => exact numbered_call c ih
  | define | disconnect | setBatch | refuse => assumption

/-- The copy that a savepoint keeps is found, as the name of the savepoint is a new one. -/
theorem Numbered.lookup_setSavepoint {db : Memory} (h : db.Numbered) :
    db.setSavepoint.2.savepoints.lookup db.setSavepoint.1 = some db.table := by
  have fresh (points : List (Savepoint × Table)) (hp : ∀ q ∈ points, q.1.id ≤ db.savepointsMade) :
      (points ++ [(db.setSavepoint.1, db.table)]).lookup db.setSavepoint.1 = some db.table := by
    induction points with
    | nil => simp
    | cons q points ih =>
        have hq : db.setSavepoint.1 ≠ q.1 := by
          intro heq
          have hle := hp q List.mem_cons_self
          rw [← heq] at hle
          exact Nat.not_succ_le_self _ hle
        rw [List.cons_append, List.lookup_cons, beq_false_of_ne hq]
        exact ih fun q hq => hp q (List.mem_cons_of_mem _ hq)
  exact fresh db.savepoints h

/-! ## What a transaction leaves -/

/-- The table, the settings and the number of what is open are the same. -/
structure Unchanged (before after : Memory) : Prop where
  table : after.table = before.table
  autoCommit : after.autoCommit = before.autoCommit
  isolation : after.isolation = before.isolation
  openStatements : after.openStatements = before.openStatements
  openCursors : after.openCursors = before.openCursors

/-- The text stands for a procedure that was run for each row, and there has been one commit. -/
def Carried (sql : String) (rows : List (List Value)) (before after : Memory) : Prop :=
  ∃ p, before.procedures.get? sql = some p ∧ after.table = onRows p before.table rows ∧
    after.commits = before.commits + 1

/-- A success has carried out the rows; a failure has changed nothing. -/
def Atomic {α : Type} (sql : String) (rows : List (List Value)) (before : Memory) :
    Except Error α × Session Memory → Prop
  | (.ok _, s) => Carried sql rows before s.database
  | (.error _, s) => Unchanged before s.database

theorem atomic_of_settled {α : Type} {sql : String} {rows : List (List Value)} {before : Memory}
    {r : Except Error α × Session Memory}
    (h : Settled (fun _ s => Carried sql rows before s.database)
      (fun s => Unchanged before s.database) r.1 r.2) : Atomic sql rows before r := by
  obtain ⟨result, s⟩ := r
  cases result <;> exact h

/-- The settings can be put back: with `a` and `c` a transaction leads back to those of `before`. -/
structure Revertible (before : Memory) (a : Bool) (c : Option IsolationLevel) (db : Memory) :
    Prop where
  switchable : db.refuseAutoCommit = false
  autoCommit : a = before.autoCommit
  isolation : c.getD db.isolation = before.isolation
  openStatements : db.openStatements = before.openStatements
  openCursors : db.openCursors = before.openCursors

/-- So can the table, as the savepoint `p` keeps a copy of it. -/
structure Undoable (before : Memory) (a : Bool) (p : Savepoint) (c : Option IsolationLevel)
    (db : Memory) : Prop extends Revertible before a c db where
  copy : db.savepoints.lookup p = some before.table

structure Unused (before db : Memory) : Prop where
  procedures : db.procedures = before.procedures
  table : db.table = before.table
  commits : db.commits = before.commits

variable {before : Memory} {a : Bool} {b : IsolationLevel} {p : Savepoint}
  {c : Option IsolationLevel} {sql : String} {rows : List (List Value)} {α : Type}

/-- What is done with statements in between can be undone. -/
theorem Undoable.later {db db' : Memory} (h : Undoable before a p c db)
    (hkept : db'.surroundings = db.surroundings) (hs : db'.openStatements = db.openStatements)
    (hc : db'.openCursors = db.openCursors) : Undoable before a p c db' where
  autoCommit := h.autoCommit
  switchable := (congrArg Surroundings.refuseAutoCommit hkept).trans h.switchable
  copy := (congrArg (fun t : Surroundings => t.savepoints.lookup p) hkept).trans h.copy
  isolation :=
    (congrArg (fun t : Surroundings => c.getD t.stored.isolation) hkept).trans h.isolation
  openStatements := hs.trans h.openStatements
  openCursors := hc.trans h.openCursors

/-- The rows of a transaction, where they are run by an act that keeps count of what is open. -/
theorem undoable_act {act : Act Memory Error α} (hkeep : ∀ base, Keeps (Holds base []) act)
    (hrows : ∀ procedures table, Secures
      (fun s => s.database.procedures = procedures ∧ s.database.table = table) act
      (fun _ s => ∃ q, procedures.get? sql = some q ∧ s.database.table = onRows q table rows)
      fun _ => True) :
    Secures (fun s => Undoable before a p c s.database ∧ Unused before s.database) act
      (fun _ s => Undoable before a p c s.database ∧
        (∃ q, before.procedures.get? sql = some q ∧ s.database.table = onRows q before.table rows) ∧
        s.database.commits = before.commits)
      fun s => Undoable before a p c s.database := by
  rintro s ⟨hundo, hunused⟩
  have hstart : Holds s.database [] s := by
    refine ⟨rfl, rfl, rfl, ?_, ?_, List.nodup_nil⟩ <;> exact nofun
  refine Secures.weaken (P := fun s' => s' = s) (Secures.and (Secures.strengthen (hkeep s.database)
    fun s' hs' => hs' ▸ hstart) (Secures.strengthen (hrows before.procedures before.table)
      fun s' hs' => hs' ▸ ⟨hunused.procedures, hunused.table⟩)) ?_ ?_ s rfl
  · rintro v s' ⟨⟨hkept, hfloat⟩, hdone⟩
    refine ⟨hundo.later hkept hfloat.statements hfloat.cursors, hdone, ?_⟩
    exact (congrArg Surroundings.commits hkept).trans hunused.commits
  · rintro s' ⟨⟨hkept, hfloat⟩, -⟩
    exact hundo.later hkept hfloat.statements hfloat.cursors

/-! ### Going back -/

/-- As the database would be at another isolation level. -/
def atLevel (db : Memory) (isolation : IsolationLevel) : Memory :=
  { db with isolation }

theorem switched {db db' : Memory} {enabled : Bool} {r : Except Failure Unit}
    (h : driver.call (.setAutoCommit enabled) db = (r, db')) (hs : db.refuseAutoCommit = false) :
    r = .ok () ∧ ∃ savepoints, db' =
      { db.record (.autoCommit enabled) with savepoints, autoCommit := enabled } := by
  change db.switchAutoCommit enabled = _ at h
  unfold switchAutoCommit at h
  dsimp only at h
  rw [if_neg (by simp [record, hs])] at h
  cases h
  exact ⟨rfl, _, rfl⟩

/-- Putting the settings back cannot fail. -/
theorem revertible_restore :
    Triple (fun s => Revertible before a c s.database ∧ s.database.table = before.table)
      (driver.restore a c) fun _ s => Unchanged before s.database := by
  refine Driver.restore_triple
    (Q := fun s : Session Memory => Unchanged before
      (s.database.atLevel (c.getD s.database.isolation)))
    (fun _ _ hs => hs) (fun _ _ hs => hs) ?_ ?_ ?_
  · refine driver.perform_secures ?_ ?_
    · rintro s u db hcall ⟨hs, htable⟩
      obtain ⟨-, savepoints, rfl⟩ := switched hcall hs.switchable
      exact ⟨htable, hs.autoCommit, hs.isolation, hs.openStatements, hs.openCursors⟩
    · rintro s f db hcall ⟨hs, -⟩
      cases (switched hcall hs.switchable).1
  · rintro b rfl
    exact Secures.of_run fun s hs => ⟨hs.table, hs.autoCommit, hs.isolation, hs.openStatements,
      hs.openCursors⟩
  · rintro rfl s hs
    exact hs

theorem undoable_abort :
    Triple (fun s => Undoable before a p c s.database) (driver.abort p a c)
      fun _ s => Unchanged before s.database := by
  refine Triple.bind (Q := fun _ s => Revertible before a c s.database ∧
    s.database.table = before.table) ?_ fun _ => Triple.bind (Q := fun _ s =>
      Revertible before a c s.database ∧ s.database.table = before.table) ?_ fun _ =>
        revertible_restore
  · refine Secures.orWarn (fun _ _ hs => hs) (Secures.of_run fun s hs => ?_)
    have hcopy : s.database.rollbackTo p = (.ok (),
        { s.database.record (.rollback p.name) with table := before.table }) := by
      unfold rollbackTo
      rw [hs.copy]
    change Revertible before a c (s.database.rollbackTo p).2 ∧
      (s.database.rollbackTo p).2.table = before.table
    rw [hcopy]
    exact ⟨⟨hs.switchable, hs.autoCommit, hs.isolation, hs.openStatements, hs.openCursors⟩, rfl⟩
  · refine Secures.orWarn (fun _ _ hs => hs) (Secures.of_run fun s ⟨hs, htable⟩ => ?_)
    exact ⟨⟨hs.switchable, hs.autoCommit, hs.isolation, hs.openStatements, hs.openCursors⟩, htable⟩

/-- After the commit neither can fail. -/
theorem carried_putBack (v : α) :
    Secures (fun s => Carried sql rows before s.database ∧ s.database.refuseAutoCommit = false)
      (driver.putBack a c v) (fun _ s => Carried sql rows before s.database) fun _ => False := by
  refine Secures.weaken (Driver.putBack_secures
    (M := fun ok s => ok = true ∧ Carried sql rows before s.database)
    (R := fun ok s => ok = true ∧ Carried sql rows before s.database)
    (driver.perform_secures ?_ ?_) (fun b _ ok => driver.perform_secures ?_ ?_)
    fun _ _ _ hs => hs) (fun _ _ hs => hs.2) fun _ hs => nomatch hs.1
  · rintro s u db hcall ⟨⟨q, hq, htable, hcommits⟩, hs⟩
    obtain ⟨-, savepoints, rfl⟩ := switched hcall hs
    exact ⟨rfl, q, hq, htable,
      (commits_record (e := .autoCommit a) s.database (by simp)).trans hcommits⟩
  · rintro s f db hcall ⟨-, hs⟩
    cases (switched hcall hs).1
  · rintro s u db hcall ⟨hok, q, hq, htable, hcommits⟩
    cases hcall
    exact ⟨hok, q, hq, htable,
      (commits_record (e := .isolation b) s.database (by simp)).trans hcommits⟩
  · rintro s f db hcall -
    cases hcall

/-! ## Transactions -/

/-- What holds between the calls of a transaction that runs rows. Only the act in the middle can
fail, and then the copy of the table is there. -/
def atomicOutline (hnumbered : before.Numbered) (hswitchable : before.refuseAutoCommit = false)
    (wanted : Option IsolationLevel) {act : Act Memory Error α}
    (hkeep : ∀ base, Keeps (Holds base []) act)
    (hrows : ∀ procedures table, Secures
      (fun s => s.database.procedures = procedures ∧ s.database.table = table) act
      (fun _ s => ∃ q, procedures.get? sql = some q ∧ s.database.table = onRows q table rows)
      fun _ => True) :
    Outline driver wanted act (fun s => s.database = before)
      (fun _ s => Carried sql rows before s.database) fun s => Unchanged before s.database where
  asked a s := s.database = before ∧ a = before.autoCommit
  known a b s := s.database = before ∧ a = before.autoCommit ∧ b = before.isolation
  manual a b s := Revertible before a none s.database ∧ Unused before s.database ∧
    s.database.Numbered ∧ b = before.isolation
  unmarked _ _ _ := False
  marked a b p s := Undoable before a p none s.database ∧ Unused before s.database ∧
    b = before.isolation
  ready a _ p c s := Undoable before a p c s.database ∧ Unused before s.database
  worked a _ p c _ s := Undoable before a p c s.database ∧
    (∃ q, before.procedures.get? sql = some q ∧ s.database.table = onRows q before.table rows) ∧
    s.database.commits = before.commits
  failing a _ p c s := Undoable before a p c s.database
  committed _ _ _ _ s := Carried sql rows before s.database ∧ s.database.refuseAutoCommit = false
  autoCommit := by
    refine driver.perform_secures ?_ ?_
    · rintro s answer db hcall rfl
      cases hcall
      exact ⟨rfl, rfl⟩
    · rintro s f db hcall -
      cases hcall
  isolation a := by
    refine driver.perform_secures ?_ ?_
    · rintro s answer db hcall ⟨rfl, ha⟩
      cases hcall
      exact ⟨rfl, ha, rfl⟩
    · rintro s f db hcall -
      cases hcall
  setAutoCommit a b := by
    refine driver.perform_secures ?_ ?_
    · rintro s u db hcall ⟨rfl, ha, hb⟩
      have hnum := numbered_call (.setAutoCommit false) hnumbered
      rw [show call (.setAutoCommit false) s.database = _ from hcall] at hnum
      obtain ⟨-, savepoints, rfl⟩ := switched hcall hswitchable
      refine ⟨⟨hswitchable, ha, rfl, rfl, rfl⟩, ⟨rfl, rfl, ?_⟩, hnum, hb⟩
      exact commits_record (e := .autoCommit false) s.database (by simp)
    · rintro s f db hcall ⟨rfl, -⟩
      cases (switched hcall hswitchable).1
  setSavepoint a b := by
    refine driver.perform_secures ?_ ?_
    · rintro s p db hcall ⟨hrevert, hunused, hnum, hb⟩
      have hcopy := hnum.lookup_setSavepoint
      rw [hunused.table] at hcopy
      cases hcall
      refine ⟨⟨⟨hrevert.switchable, hrevert.autoCommit, hrevert.isolation, hrevert.openStatements,
        hrevert.openCursors⟩, hcopy⟩, ⟨hunused.procedures, hunused.table, ?_⟩, hb⟩
      exact (commits_record (e := .savepoint _) s.database (by simp)).trans hunused.commits
    · rintro s f db hcall -
      cases hcall
  restore a b := fun _ hs => hs.elim
  changeIsolation a b p := by
    refine Driver.changeIsolation_secures (A := fun _ _ s => Undoable before a p none s.database ∧
      Unused before s.database ∧ b = before.isolation) (fun _ s hs => ⟨hs.1, hs.2.1⟩)
      (fun l _ _ => driver.ask_triple fun s answer db hprobe hs => by cases hprobe; exact hs)
      (fun l s hs => ⟨hs.1, hs.2.1⟩) fun l => driver.perform_secures ?_ ?_
    · rintro s u db hcall ⟨hundo, hunused, hb⟩
      cases hcall
      refine ⟨⟨⟨hundo.switchable, hundo.autoCommit, hb, hundo.openStatements, hundo.openCursors⟩,
        hundo.copy⟩, ⟨hunused.procedures, hunused.table, ?_⟩⟩
      exact (commits_record (e := .isolation l) s.database (by simp)).trans hunused.commits
    · rintro s f db hcall -
      cases hcall
  act a b p c := undoable_act hkeep hrows
  commit a b p c v := by
    refine driver.perform_secures ?_ ?_
    · rintro s u db hcall ⟨hundo, ⟨q, hq, htable⟩, hcommits⟩
      cases hcall
      refine ⟨⟨q, hq, htable, ?_⟩, hundo.switchable⟩
      exact (commits_commit s.database).trans (congrArg (· + 1) hcommits)
    · rintro s f db hcall -
      cases hcall
  putBack a b c v := Secures.weaken (carried_putBack v) (fun _ _ hs => hs) fun _ hs => hs.elim
  log a b p c s l hs := hs
  abort a b p c := undoable_abort

theorem transacted_atomic (hnumbered : before.Numbered)
    (hswitchable : before.refuseAutoCommit = false)
    (hlen : 1 < rows.length) {options : Options} {act : Act Memory Error α}
    (hkeep : ∀ base, Keeps (Holds base []) act)
    (hrows : ∀ procedures table, Secures
      (fun s => s.database.procedures = procedures ∧ s.database.table = table) act
      (fun _ s => ∃ q, procedures.get? sql = some q ∧ s.database.table = onRows q table rows)
      fun _ => True) :
    Secures (fun s => s.database = before) (driver.transacted rows options act)
      (fun _ s => Carried sql rows before s.database) fun s => Unchanged before s.database := by
  unfold Driver.transacted
  rw [if_pos hlen]
  exact (atomicOutline hnumbered hswitchable options.isolation hkeep hrows).secures

/-! ## Updates of several rows -/

variable {width : Nat} {β : Type}

theorem executeUpdate_atomic (sql : String) (hnumbered : before.Numbered)
    (hswitchable : before.refuseAutoCommit = false) (hlen : 1 < rows.length)
    (hwidth : ∀ row ∈ rows, row.length = width) (options : Options) :
    Secures (fun s => s.database = before) (driver.executeUpdate sql rows options)
      (fun _ s => Carried sql rows before s.database) fun s => Unchanged before s.database := by
  have run : Secures (fun s => s.database = before)
      (driver.transacted rows options (driver.runUpdate sql .none rows options fun i batch =>
        surfaced (driver.runRows i rows options.large batch)))
      (fun _ s => Carried sql rows before s.database) fun s => Unchanged before s.database :=
    transacted_atomic hnumbered hswitchable hlen
      (fun base => (holds_custody base).runUpdate fun i batch =>
        ((holds_custody base).runRows i rows options.large batch []).surfaced)
      fun procedures table => runUpdate_onRows fun p i batch =>
        (feeds_runRows hwidth options.large batch).surfaced
  refine Driver.checked_secures hlen (fun _ => ?_) fun e he => ?_
  · exact Secures.bind (Secures.lift fun _ hs => hs) fun _ => run
  · rw [checkArity_of_width hwidth] at he
    cases he

theorem executeUpdateWithKeys_atomic (sql : String) (hnumbered : before.Numbered)
    (hswitchable : before.refuseAutoCommit = false) (hlen : 1 < rows.length)
    (hwidth : ∀ row ∈ rows, row.length = width) (options : Options) (keys : GeneratedKeys)
    (mapper : RowMapper α) (aggregate : List α → β) :
    Secures (fun s => s.database = before)
      (driver.executeUpdateWithKeys sql rows options keys mapper aggregate)
      (fun _ s => Carried sql rows before s.database) fun s => Unchanged before s.database := by
  have run (keys : GeneratedKeys) : Secures (fun s => s.database = before)
      (driver.transacted rows options (driver.runUpdate sql keys rows options fun i batch =>
        driver.runKeys i rows options.large batch mapper))
      (fun _ s => Carried sql rows before s.database) fun s => Unchanged before s.database :=
    transacted_atomic hnumbered hswitchable hlen
      (fun base => (holds_custody base).runUpdate fun i batch =>
        (holds_custody base).runKeys i rows options.large batch mapper [])
      fun procedures table => runUpdate_onRows fun p i batch =>
        feeds_runKeys hwidth options.large batch mapper
  refine Driver.checked_secures hlen (fun _ => ?_) fun e he => ?_
  · refine Secures.bind (Q := fun _ s => s.database = before) (Secures.lift fun _ hs => hs)
      fun _ => ?_
    exact Secures.bind (run _) fun collected => Secures.pure fun _ hs => hs
  · rw [checkArity_of_width hwidth] at he
    cases he

/-- An update of several rows of one width is all or nothing. If it fails, the table, the settings
and the number of what is open are as before. If it succeeds, the procedure was run for the rows in
order, and there was one commit. -/
theorem update_atomic {s : Session Memory} (hs : Reachable s.database)
    (hswitchable : s.database.refuseAutoCommit = false) (sql : String)
    {rows : List (List Value)} {width : Nat} (hlen : 1 < rows.length)
    (hwidth : ∀ row ∈ rows, row.length = width) (options : Options) :
    Atomic sql rows s.database ((driver.executeUpdate sql rows options).run s) ∧
      ∀ {α β : Type} (keys : GeneratedKeys) (mapper : RowMapper α) (aggregate : List α → β),
        Atomic sql rows s.database
          ((driver.executeUpdateWithKeys sql rows options keys mapper aggregate).run s) := by
  constructor
  · have hrun := executeUpdate_atomic sql hs.numbered hswitchable hlen hwidth options s rfl
    exact atomic_of_settled hrun
  · intro α β keys mapper aggregate
    have hrun := executeUpdateWithKeys_atomic sql hs.numbered hswitchable hlen hwidth
      options keys mapper aggregate s rfl
    exact atomic_of_settled hrun

/-- Two rows as a batch, the second of which cannot be inserted. -/
theorem update_atomic_null_name :
    let s : Session Memory := { database := Memory.define {} "INSERT" Procedure.insert }
    let rows : List (List Value) := [[.text "Ada"], [.null]]
    Reachable s.database ∧ s.database.refuseAutoCommit = false ∧ 1 < rows.length ∧
      (∀ row ∈ rows, row.length = 1) ∧
      Atomic "INSERT" rows s.database
        ((driver.executeUpdate "INSERT" rows { batch := true }).run s) := by
  intro s rows
  have hs : Reachable s.database := .define _ _ .start
  have hswitchable : s.database.refuseAutoCommit = false := rfl
  have hlen : 1 < rows.length := Nat.one_lt_two
  have hwidth : ∀ row ∈ rows, row.length = 1 := by simp [rows]
  -- the theorem says it without running the update
  clear_value s rows
  exact ⟨hs, hswitchable, hlen, hwidth,
    (update_atomic hs hswitchable "INSERT" hlen hwidth { batch := true }).1⟩

end SqlGateway.Database.Memory
