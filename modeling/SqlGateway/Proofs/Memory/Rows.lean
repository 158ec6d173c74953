import SqlGateway.Proofs.Act.Execution
import SqlGateway.Proofs.Memory.Calls

/-!
# Rows on an in-memory database

An update that succeeds runs the procedure of its text once for each row, in order, whether the rows
are sent one by one or as a batch. Nothing else that it does touches the table.
-/

namespace SqlGateway.Database.Memory

/-! ## What a statement runs with -/

/-- What an execution of a statement depends on. -/
structure Script where
  procedures : Registry String Procedure
  table : Table
  sql : String
  bound : List (Nat × Value)
  added : List (List Value)

def script (db : Memory) (i : StatementId) : Script :=
  ⟨db.procedures, db.table, (db.statement i).sql, (db.statement i).bound, (db.statement i).added⟩

/-- Whether a call has to do with rows or with what they are run on. -/
def alters : Call → Bool
  | .prepare .. | .rollbackTo _ | .bind .. | .addBatch _ | .execute _ | .executeUpdate _
  | .executeLargeUpdate _ | .executeBatch _ | .executeLargeBatch _ => true
  | _ => false

theorem script_putStatement (db : Memory) {i j : StatementId} {s : MemoryStatement}
    (hsql : s.sql = (db.statement j).sql) (hbound : s.bound = (db.statement j).bound)
    (hadded : s.added = (db.statement j).added) :
    (db.putStatement j s).script i = db.script i := by
  unfold script
  rw [statement_putStatement]
  split
  · rename_i hj
    rw [← hj, hsql, hbound, hadded]
    rfl
  · rfl

/-- Most calls leave alone what a statement runs with. -/
theorem script_call (db : Memory) {c : Call} (hc : alters c = false) (i : StatementId) :
    (call c db).2.script i = db.script i := by
  cases c with
  | prepare | rollbackTo | bind | addBatch | execute | executeUpdate | executeLargeUpdate
  | executeBatch | executeLargeBatch => cases hc
  | setAutoCommit enabled =>
      simp only [call, switchAutoCommit]
      split <;> rfl
  | registerOut j position type => exact script_putStatement db rfl rfl rfl
  | resultCursor j c =>
      have hput := db.script_putStatement (i := i) (j := j)
        (s := { db.statement j with results := (db.statement j).results.withoutCurrent })
        rfl rfl rfl
      simp only [call, openCursor]
      split <;> exact hput
  | moreResults j => exact script_putStatement db rfl rfl rfl
  | generatedKeys j c =>
      have hput := db.script_putStatement (i := i) (j := j)
        (s := { db.statement j with results := (db.statement j).results.withoutKeys }) rfl rfl rfl
      simp only [call, openKeys]
      split
      · exact hput
      · rfl
  | closeStatement j =>
      have hput := db.script_putStatement (i := i) (j := j)
        (s := { db.statement j with closed := true }) rfl rfl rfl
      simp only [call, closeStatement]
      split
      · rfl
      · exact hput
  | next c =>
      simp only [call, next]
      split <;> rfl
  | closeCursor c =>
      simp only [call, closeCursor]
      split <;> rfl
  | _ => rfl

/-! ## Binding a row -/

open MemoryStatement (insertBound)

/-- Values at successive positions. -/
def numbered (position : Nat) : List Value → List (Nat × Value)
  | [] => []
  | value :: values => (position, value) :: numbered (position + 1) values

theorem map_numbered (position : Nat) (values : List Value) :
    (numbered position values).map (·.2) = values := by
  induction values generalizing position with
  | nil => rfl
  | cons value values ih => exact congrArg (value :: ·) (ih (position + 1))

/-- What is bound after a row was bound, from a position on, over what was bound before. -/
def bindAll (position : Nat) : List Value → List (Nat × Value) → List (Nat × Value)
  | [], bound => bound
  | value :: values, bound => bindAll (position + 1) values (insertBound position value bound)

/-- A value at a later position comes after a value that is bound. -/
theorem insertBound_cons_of_lt {p q : Nat} (h : p < q) (v w : Value) (bound : List (Nat × Value)) :
    insertBound q w ((p, v) :: bound) = (p, v) :: insertBound q w bound := by
  simp only [insertBound]
  rw [if_neg (by omega), if_neg (by omega)]

theorem bindAll_cons_of_lt {p q : Nat} (h : p < q) (v : Value) (values : List Value)
    (bound : List (Nat × Value)) :
    bindAll q values ((p, v) :: bound) = (p, v) :: bindAll q values bound := by
  induction values generalizing q bound with
  | nil => rfl
  | cons value values ih =>
      simp only [bindAll]
      rw [insertBound_cons_of_lt h, ih (by omega)]

/-- A row is bound as it is, where nothing is bound yet or another row of the same length. -/
theorem bindAll_numbered (position : Nat) (values old : List Value)
    (h : old = [] ∨ old.length = values.length) :
    bindAll position values (numbered position old) = numbered position values := by
  induction values generalizing position old with
  | nil =>
      obtain rfl : old = [] := h.elim id List.eq_nil_of_length_eq_zero
      rfl
  | cons value values ih =>
      cases old with
      | nil =>
          simp only [bindAll, numbered, insertBound]
          rw [bindAll_cons_of_lt (Nat.lt_succ_self _)]
          exact congrArg _ (ih (position + 1) [] (.inl rfl))
      | cons v old =>
          have hlen : old.length = values.length := by
            simpa using h
          simp only [bindAll, numbered, insertBound, Nat.lt_irrefl, if_true, if_false]
          rw [bindAll_cons_of_lt (Nat.lt_succ_self _)]
          exact congrArg _ (ih (position + 1) old (.inr hlen))

/-! ## Running rows -/

/-- The table after a procedure was run once for each row. -/
def onRows (p : Procedure) (table : Table) (rows : List (List Value)) : Table :=
  rows.foldl (fun table row => (p table row).2) table

/-- The statement `i` stands for `p`; the table, what is bound and what was added are as given. -/
structure Runs (p : Procedure) (i : StatementId) (table : Table) (bound : List (Nat × Value))
    (added : List (List Value)) (s : Session Memory) : Prop where
  procedure : s.database.procedures.get? (s.database.statement i).sql = some p
  table : s.database.table = table
  bound : (s.database.statement i).bound = bound
  added : (s.database.statement i).added = added

variable {p : Procedure} {i : StatementId} {table : Table} {bound : List (Nat × Value)}
  {added : List (List Value)}

theorem Runs.change {s : Session Memory} {db : Memory} {table' : Table}
    {bound' : List (Nat × Value)} {added' : List (List Value)} (hs : Runs p i table bound added s)
    (h : db.script i =
      { s.database.script i with table := table', bound := bound', added := added' }) :
    Runs p i table' bound' added' { s with database := db } where
  procedure := (congrArg (fun t : Script => t.procedures.get? t.sql) h).trans hs.procedure
  table := congrArg Script.table h
  bound := congrArg Script.bound h
  added := congrArg Script.added h

theorem runs_keeps {c : Call} (hc : alters c = false) :
    Keeps (Runs p i table bound added) (driver.perform c) :=
  Secures.of_run fun s hs => hs.change <| by
    rw [← hs.table, ← hs.bound, ← hs.added]
    exact script_call s.database hc i

theorem runs_bind (position : Nat) (value : Value) :
    Secures (Runs p i table bound added) (driver.perform (.bind i position value))
      (fun _ => Runs p i table (insertBound position value bound) added) fun _ => True := by
  refine driver.perform_secures (fun s u db hcall hs => ?_) fun _ _ _ _ _ => trivial
  cases hcall
  refine hs.change ?_
  unfold script update
  rw [statement_putStatement, if_pos rfl, ← hs.table, ← hs.bound, ← hs.added]
  rfl

/-! ### Executions -/

theorem script_run {db db' : Memory} {values : List Value}
    {e : Execution (ResultSet Value) Value}
    (hp : db.procedures.get? (db.statement i).sql = some p)
    (h : db.run i values = (.ok e, db')) :
    db'.script i = { db.script i with table := (p db.table values).2 } := by
  unfold run at h
  dsimp only at h
  rw [hp] at h
  dsimp only at h
  split at h <;> cases h
  exact script_putStatement _ rfl rfl rfl

theorem script_runEach {db db' : Memory} {rows : List (List Value)}
    {es : List (Execution (ResultSet Value) Value)}
    (hp : db.procedures.get? (db.statement i).sql = some p)
    (h : db.runEach i rows = (.ok es, db')) :
    db'.script i = { db.script i with table := onRows p db.table rows } := by
  induction rows generalizing db es with
  | nil =>
      cases h
      rfl
  | cons values rows ih =>
      unfold runEach at h
      split at h
      · cases h
      · rename_i e db₁ hrun
        have hfirst := script_run hp hrun
        have hp₁ : db₁.procedures.get? (db₁.statement i).sql = some p :=
          (congrArg (fun t : Script => t.procedures.get? t.sql) hfirst).trans hp
        obtain ⟨rest, hrest⟩ : ∃ rest, db₁.runEach i rows = (.ok rest, db') := by
          cases hr : db₁.runEach i rows with
          | mk outcome db₂ =>
              rw [hr] at h
              cases outcome <;> cases h
              exact ⟨_, rfl⟩
        rw [ih hp₁ hrest, hfirst]
        exact congrArg (Script.mk _ · _ _ _)
          (congrArg (onRows p · rows) (congrArg Script.table hfirst))

theorem script_countBatch {db db' : Memory} {counts : List Int64}
    (hp : db.procedures.get? (db.statement i).sql = some p)
    (h : db.countBatch i = (.ok counts, db')) :
    db'.script i =
      { db.script i with table := onRows p db.table (db.statement i).added, added := [] } := by
  have hemptied : (db.putStatement i { db.statement i with added := [] }).script i =
      { db.script i with added := [] } := by
    unfold script
    rw [statement_putStatement, if_pos rfl]
    rfl
  unfold countBatch at h
  split at h
  · dsimp only at h
    split at h <;> cases h
    rename_i executions db₁ hrun
    rw [script_putStatement db₁ (by rfl) (by rfl) (by rfl), script_runEach
      ((congrArg (fun t : Script => t.procedures.get? t.sql) hemptied).trans hp) hrun, hemptied]
    rfl
  · cases h

theorem Runs.ran {s : Session Memory} {db : Memory} {e : Execution (ResultSet Value) Value}
    (hs : Runs p i table bound added s)
    (h : s.database.run i (s.database.statement i).values = (.ok e, db)) :
    Runs p i (p table (bound.map (·.2))).2 bound added { s with database := db } := by
  refine hs.change ?_
  rw [script_run hs.procedure h, ← hs.table, ← hs.bound, ← hs.added]
  rfl

theorem Runs.ranBatch {s : Session Memory} {db : Memory} {counts : List Int64}
    (hs : Runs p i table bound added s) (h : s.database.countBatch i = (.ok counts, db)) :
    Runs p i (onRows p table added) bound [] { s with database := db } := by
  refine hs.change ?_
  rw [script_countBatch hs.procedure h, ← hs.table, ← hs.bound, ← hs.added]
  rfl

theorem runs_addBatch :
    Secures (Runs p i table bound added) (driver.perform (.addBatch i))
      (fun _ => Runs p i table bound (added ++ [bound.map (·.2)])) fun _ => True := by
  refine driver.perform_secures (fun s u db hcall hs => ?_) fun _ _ _ _ _ => trivial
  cases hcall
  refine hs.change ?_
  unfold script update
  rw [statement_putStatement, if_pos rfl, ← hs.table, ← hs.bound, ← hs.added]
  rfl

theorem runs_executeRow (large : Bool) :
    Secures (Runs p i table bound added) (driver.executeRow i large)
      (fun _ => Runs p i (p table (bound.map (·.2))).2 bound added) fun _ => True := by
  have counted {s : Session Memory} {n : Int64} {db : Memory}
      (h : s.database.count i = (.ok n, db)) (hs : Runs p i table bound added s) :
      Runs p i (p table (bound.map (·.2))).2 bound added { s with database := db } := by
    unfold Memory.count at h
    cases hrun : s.database.run i (s.database.statement i).values with
    | mk outcome db₁ =>
        rw [hrun] at h
        cases outcome <;> cases h
        exact hs.ran hrun
  cases large with
  | true =>
      refine driver.perform_secures (fun s n db hcall hs => ?_) fun _ _ _ _ _ => trivial
      exact counted hcall hs
  | false =>
      refine Secures.map (Q := fun _ => Runs p i (p table (bound.map (·.2))).2 bound added)
        (driver.perform_secures (fun s n db hcall hs => ?_) fun _ _ _ _ _ => trivial)
        fun _ _ hs => hs
      cases hcount : s.database.count i with
      | mk count db₁ =>
          change call (.executeUpdate i) s.database = _ at hcall
          simp only [call, hcount] at hcall
          cases count with
          | ok n =>
              cases congrArg Prod.snd hcall
              exact counted hcount hs
          | error f => cases congrArg Prod.fst hcall

theorem runs_executeLargeBatch :
    Secures (Runs p i table bound added) (driver.perform (.executeLargeBatch i))
      (fun _ => Runs p i (onRows p table added) bound []) fun _ => True :=
  driver.perform_secures (fun _ _ _ hcall hs => hs.ranBatch hcall) fun _ _ _ _ _ => trivial

/-! ## Rows of one width -/

/-- As `Runs`, where at most one row of the width is bound. -/
def Feeds (p : Procedure) (i : StatementId) (width : Nat) (table : Table)
    (added : List (List Value)) (s : Session Memory) : Prop :=
  ∃ row : List Value, (row = [] ∨ row.length = width) ∧ Runs p i table (numbered 1 row) added s

variable {width : Nat} {row : List Value} {rows : List (List Value)} {α : Type}

theorem runs_bindFrom (position : Nat) (values : List Value) :
    Secures (Runs p i table bound added) (driver.bindFrom i position values)
      (fun _ => Runs p i table (bindAll position values bound) added) fun _ => True := by
  induction values generalizing position bound with
  | nil => exact Secures.pure fun _ hs => hs
  | cons value values ih => exact Secures.bind (runs_bind position value) fun _ => ih (position + 1)

/-- Once a row was bound there is nothing else bound. -/
theorem feeds_bindValues (hrow : row.length = width) :
    Secures (Feeds p i width table added) (driver.bindValues i row)
      (fun _ => Runs p i table (numbered 1 row) added) fun _ => True := by
  rintro s ⟨old, hold, hs⟩
  have hbound := runs_bindFrom 1 row s hs
  rwa [bindAll_numbered 1 row old (hold.imp_right fun h => h.trans hrow.symm)] at hbound

theorem feeds_addRows (hrows : ∀ row ∈ rows, row.length = width) :
    Secures (Feeds p i width table added) (driver.addRows i rows)
      (fun _ => Feeds p i width table (added ++ rows)) fun _ => True := by
  induction rows generalizing added with
  | nil => exact Secures.pure fun _ hs => (List.append_nil added).symm ▸ hs
  | cons row rows ih =>
      have hrow := hrows row List.mem_cons_self
      refine Secures.bind (feeds_bindValues hrow) fun _ => ?_
      refine Secures.bind (Q := fun _ => Feeds p i width table (added ++ [row]))
        (Secures.weaken runs_addBatch (fun _ s hs => ?_) fun _ hs => hs) fun _ => ?_
      · rw [map_numbered] at hs
        exact ⟨row, .inr hrow, hs⟩
      · rw [List.append_cons added row rows]
        exact ih fun row h => hrows row (List.mem_cons_of_mem _ h)

theorem feeds_executeRow (hrow : row.length = width) (large : Bool) :
    Secures (Runs p i table (numbered 1 row) added) (driver.executeRow i large)
      (fun _ => Feeds p i width (p table row).2 added) fun _ => True := by
  refine Secures.weaken (runs_executeRow large) (fun _ s hs => ?_) fun _ hs => hs
  rw [map_numbered] at hs
  exact ⟨row, .inr hrow, hs⟩

theorem feeds_executeLargeBatch :
    Secures (Feeds p i width table added) (driver.perform (.executeLargeBatch i))
      (fun _ => Feeds p i width (onRows p table added) []) fun _ => True := by
  rintro s ⟨row, hrow, hs⟩
  exact Secures.weaken runs_executeLargeBatch (fun _ s hs => ⟨row, hrow, hs⟩) (fun _ hs => hs) s hs

theorem feeds_countEach (hrows : ∀ row ∈ rows, row.length = width) (large : Bool)
    (total : UInt64) :
    Secures (Feeds p i width table added) (driver.countEach i large total rows)
      (fun _ => Feeds p i width (onRows p table rows) added) fun _ => True := by
  induction rows generalizing table total with
  | nil => exact Secures.pure fun _ hs => hs
  | cons row rows ih =>
      have hrow := hrows row List.mem_cons_self
      refine Secures.bind (feeds_bindValues hrow) fun _ => ?_
      refine Secures.bind (feeds_executeRow hrow large) fun count => ?_
      exact ih (fun row h => hrows row (List.mem_cons_of_mem _ h)) _

theorem feeds_runRows (hrows : ∀ row ∈ rows, row.length = width) (large batch : Bool) :
    Secures (Feeds p i width table []) (driver.runRows i rows large batch)
      (fun _ => Feeds p i width (onRows p table rows) []) fun _ => True := by
  cases batch with
  | true =>
      refine Secures.bind (feeds_addRows hrows) fun _ => ?_
      rw [List.nil_append]
      exact Secures.bind feeds_executeLargeBatch fun counts => Secures.pure fun _ hs => hs
  | false => exact feeds_countEach hrows large 0

/-! ### Keys -/

theorem feeds_keeps {c : Call} (hc : alters c = false) :
    Keeps (Feeds p i width table added) (driver.perform c) := by
  rintro s ⟨row, hrow, hs⟩
  exact Secures.weaken (runs_keeps hc) (fun _ s hs => ⟨row, hrow, hs⟩)
    (fun s hs => ⟨row, hrow, hs⟩) s hs

theorem alters_of_worksOn_cursor {c : Call} {k : CursorId} (hc : c.WorksOn (.cursor k)) :
    alters c = false := by
  obtain ⟨hh, -⟩ := hc
  cases c <;> first | rfl | cases hh

theorem alters_of_isOption {c : Call} (hc : c.isOption = true) : alters c = false := by
  cases c <;> first | rfl | cases hc

theorem feeds_readKeys (mapper : RowMapper α) :
    Secures (Feeds p i width table added) (driver.readKeys i mapper)
      (fun _ => Feeds p i width table added) fun _ => True := by
  have opened : Keeps (Feeds p i width table added) (driver.openKeys i) := by
    refine Secures.bind (Secures.getState (Q := fun _ => Feeds p i width table added)
      fun _ hs => hs) fun s₀ => ?_
    refine Secures.bind (feeds_keeps rfl) fun _ => ?_
    refine Secures.bind (Secures.modifyState fun s hs => ?_) fun _ => Keeps.pure
    obtain ⟨row, hrow, hs⟩ := hs
    exact ⟨row, hrow, hs.procedure, hs.table, hs.bound, hs.added⟩
  have drained (k : CursorId) : Keeps (Feeds p i width table added) (driver.drain mapper k) :=
    Driver.drain_secures (M := fun _ => Feeds p i width table added)
      (R := fun _ => Feeds p i width table added)
      (Keeps.drainRows (fun c hc => feeds_keeps (alters_of_worksOn_cursor hc)) mapper none)
      fun _ => feeds_keeps rfl
  refine Secures.weaken (Secures.bind opened.surfaced fun k => drained k) (fun _ _ hs => hs)
    fun _ _ => trivial

theorem feeds_keysEach (hrows : ∀ row ∈ rows, row.length = width) (large : Bool)
    (mapper : RowMapper α) :
    Secures (Feeds p i width table added) (driver.keysEach i large mapper rows)
      (fun _ => Feeds p i width (onRows p table rows) added) fun _ => True := by
  induction rows generalizing table with
  | nil => exact Secures.pure fun _ hs => hs
  | cons row rows ih =>
      have hrow := hrows row List.mem_cons_self
      refine Secures.bind (feeds_bindValues hrow).surfaced fun _ => ?_
      refine Secures.bind (feeds_executeRow hrow large).discarded fun _ => ?_
      refine Secures.bind (feeds_readKeys mapper) fun keys => ?_
      refine Secures.bind (ih fun row h => hrows row (List.mem_cons_of_mem _ h)) fun rest => ?_
      exact Secures.pure fun _ hs => hs

theorem feeds_runKeys (hrows : ∀ row ∈ rows, row.length = width) (large batch : Bool)
    (mapper : RowMapper α) :
    Secures (Feeds p i width table []) (driver.runKeys i rows large batch mapper)
      (fun _ => Feeds p i width (onRows p table rows) []) fun _ => True := by
  cases batch with
  | true =>
      refine Secures.bind (feeds_addRows hrows).surfaced fun _ => ?_
      rw [List.nil_append]
      exact Secures.bind feeds_executeLargeBatch.discarded fun _ => feeds_readKeys mapper
  | false => exact feeds_keysEach hrows large mapper

/-! ## Updates -/

theorem script_prepare {db db' : Memory} {sql : String} {kind : StatementKind}
    {keys : GeneratedKeys} {u : Unit} (h : db.prepare i sql kind keys = (.ok u, db')) :
    (∃ p, db.procedures.get? sql = some p) ∧
      db'.script i = ⟨db.procedures, db.table, sql, [], []⟩ := by
  unfold prepare at h
  split at h
  · cases h
  · split at h
    · cases h
    · rename_i hknown
      cases h
      refine ⟨Option.ne_none_iff_exists'.mp (by simpa using hknown), ?_⟩
      change (db.putStatement i _).script i = _
      unfold script
      rw [statement_putStatement, if_pos rfl]
      rfl

/-- The text stands for a procedure, and the table is what `f` says of it. -/
def Stands (procedures : Registry String Procedure) (sql : String) (i : StatementId) (width : Nat)
    (f : Procedure → Table) (s : Session Memory) : Prop :=
  ∃ p, procedures.get? sql = some p ∧ Feeds p i width (f p) [] s

variable {procedures : Registry String Procedure} {sql : String} {f : Procedure → Table}

/-- Only the database counts. -/
theorem Stands.mk_session {s : Session Memory} (hs : Stands procedures sql i width f s) (n m : Nat)
    (l : List LogEntry) : Stands procedures sql i width f ⟨s.database, n, m, l⟩ := by
  obtain ⟨p, hp, row, hrow, hs⟩ := hs
  exact ⟨p, hp, row, hrow, hs.procedure, hs.table, hs.bound, hs.added⟩

theorem stands_keeps {c : Call} (hc : alters c = false) :
    Keeps (Stands procedures sql i width f) (driver.perform c) := by
  rintro s ⟨p, hp, hs⟩
  exact Secures.weaken (feeds_keeps hc) (fun _ s hs => ⟨p, hp, hs⟩)
    (fun s hs => ⟨p, hp, hs⟩) s hs

theorem stands_prepare (kind : StatementKind) (keys : GeneratedKeys) :
    Secures (fun s => s.database.procedures = procedures ∧ s.database.table = table)
      (driver.prepare sql kind keys) (fun i => Stands procedures sql i width fun _ => table)
      fun _ => True := by
  refine Secures.bind (Secures.getState (Q := fun _ s => s.database.procedures = procedures ∧
    s.database.table = table) fun _ hs => hs) fun s₀ => ?_
  refine Secures.bind (Q := fun _ => Stands procedures sql ⟨s₀.statements + 1⟩ width fun _ => table)
    (driver.perform_secures ?_ fun _ _ _ _ _ => trivial) fun _ => ?_
  · rintro s u db hcall ⟨rfl, rfl⟩
    obtain ⟨⟨p, hp⟩, hscript⟩ := script_prepare hcall
    refine ⟨p, hp, [], .inl rfl, ?_, congrArg Script.table hscript, congrArg Script.bound hscript,
      congrArg Script.added hscript⟩
    exact (congrArg (fun t : Script => t.procedures.get? t.sql) hscript).trans hp
  · refine Secures.bind (Secures.modifyState fun s hs => ?_) fun _ => Secures.pure fun _ hs => hs
    exact hs.mk_session _ _ _

theorem stands_ask (q : Probe) :
    Triple (Stands procedures sql i width f) (driver.ask q)
      fun _ => Stands procedures sql i width f :=
  driver.ask_triple fun s answer db hprobe hs => by
    cases q <;> cases hprobe <;> exact hs

theorem stands_applyOptions (options : Options) :
    Keeps (Stands procedures sql i width f) (driver.applyOptions i options) :=
  Keeps.applyOptions (fun _ _ hs => hs.mk_session _ _ _) options
    fun _ hc _ => stands_keeps (alters_of_isOption hc)

/-- An update that succeeds has run the procedure of its text for each of its rows. What `F` says of
the procedure and the result of the action holds of the result of the update. -/
theorem runUpdate_runs {keys : GeneratedKeys} {options : Options} {F : Procedure → α → Prop}
    {action : StatementId → Bool → Act Memory Error α}
    (h : ∀ p i batch, Secures (Feeds p i width table []) (action i batch)
      (fun a s => F p a ∧ Feeds p i width (onRows p table rows) [] s) fun _ => True) :
    Secures (fun s => s.database.procedures = procedures ∧ s.database.table = table)
      (driver.runUpdate sql keys rows options action)
      (fun a s => ∃ p, procedures.get? sql = some p ∧ F p a ∧
        s.database.table = onRows p table rows)
      fun _ => True := by
  refine Driver.runUpdate_yields (R := fun i => Stands procedures sql i width fun _ => table)
    (W := fun i a s => ∃ p, procedures.get? sql = some p ∧ F p a ∧
      Feeds p i width (onRows p table rows) [] s)
    (driver.ask_triple fun s answer db hprobe hs => by cases hprobe; exact hs)
    (stands_prepare _ _) (fun i => stands_applyOptions options) (fun i => stands_ask _)
    (fun i batch => ?_) fun i a => ?_
  · rintro s ⟨p, hp, hs⟩
    exact Secures.weaken (h p i batch) (fun a s hs => ⟨p, hp, hs⟩) (fun _ hs => hs) s hs
  · rintro s ⟨p, hp, ha, hs⟩
    refine Secures.weaken (feeds_keeps rfl) (fun _ s hs => ?_) (fun _ _ => trivial) s hs
    obtain ⟨row, hrow, hs⟩ := hs
    exact ⟨p, hp, ha, hs.table⟩

/-- As `runUpdate_runs`, where nothing is said of the result. -/
theorem runUpdate_onRows {keys : GeneratedKeys} {options : Options}
    {action : StatementId → Bool → Act Memory Error α}
    (h : ∀ p i batch, Secures (Feeds p i width table []) (action i batch)
      (fun _ => Feeds p i width (onRows p table rows) []) fun _ => True) :
    Secures (fun s => s.database.procedures = procedures ∧ s.database.table = table)
      (driver.runUpdate sql keys rows options action)
      (fun _ s => ∃ p, procedures.get? sql = some p ∧ s.database.table = onRows p table rows)
      fun _ => True :=
  Secures.weaken (runUpdate_runs (F := fun _ _ => True) fun p i batch =>
    Secures.weaken (h p i batch) (fun _ _ hs => ⟨trivial, hs⟩) fun _ hs => hs)
    (fun _ _ ⟨p, hp, _, htable⟩ => ⟨p, hp, htable⟩) fun _ hs => hs

end SqlGateway.Database.Memory
