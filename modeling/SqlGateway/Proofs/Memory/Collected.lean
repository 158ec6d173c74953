import SqlGateway.Proofs.Memory.Atomicity
import SqlGateway.Proofs.Memory.Batch
import SqlGateway.Proofs.Memory.Keys

/-!
# Keys of batches

An update that collects generated keys comes to the same keys whether it sends its rows as a batch
or runs them one by one, and leaves the same table. It fails in one way if it fails in the other,
though perhaps for another reason: a batch runs all of its rows before any key is mapped.
-/

namespace SqlGateway.Database.Memory

variable {α β : Type} {p : Procedure} {i j : StatementId} {table table' : Table} {row : List Value}
  {rows added : List (List Value)} {width : Nat} {db : Memory} {mapper : RowMapper α}

/-! ## Keys that are asked for -/

theorem keysRequested_putStatement {st : MemoryStatement}
    (h : st.keysRequested = (db.statement j).keysRequested) :
    ((db.putStatement j st).statement i).keysRequested = (db.statement i).keysRequested := by
  rw [statement_putStatement]
  split
  · rename_i hj
    rw [h, hj]
  · rfl

theorem keysRequested_run (db : Memory) (values : List Value) :
    ((db.run j values).2.statement i).keysRequested = (db.statement i).keysRequested := by
  unfold run
  dsimp only
  split
  · rfl
  · split
    · exact keysRequested_putStatement rfl
    · rfl

theorem keysRequested_runEach (db : Memory) (rows : List (List Value)) :
    ((db.runEach j rows).2.statement i).keysRequested = (db.statement i).keysRequested := by
  induction rows generalizing db with
  | nil => rfl
  | cons values rows ih =>
      have hrun : ((db.run j values).2.statement i).keysRequested = _ := keysRequested_run db values
      unfold runEach
      split
      · rename_i h
        rwa [h] at hrun
      · rename_i h
        rw [h] at hrun
        exact (ih _).trans hrun

/-- Keys are asked for, and there are batches if they are wanted. -/
structure Ready (i : StatementId) (batch : Bool) (s : Session Memory) : Prop where
  requested : Requested i s
  batch : batch = true → s.database.batch = true

theorem ready_update {batch : Bool} {c : Call} {f : MemoryStatement → MemoryStatement}
    (hc : ∀ db, ∃ a, driver.call c db = (.ok a, db.update i f))
    (hf : ∀ st, (f st).keysRequested = st.keysRequested) :
    Secures (Ready i batch) (driver.perform c) (fun _ => Ready i batch) fun _ => False := by
  refine driver.perform_secures ?_ ?_
  · rintro s a db hcall ⟨hrequested, hbatch⟩
    obtain ⟨a', ha⟩ := hc s.database
    cases hcall.symm.trans ha
    exact ⟨(keysRequested_putStatement (hf _)).trans hrequested, hbatch⟩
  · rintro s f db hcall -
    obtain ⟨a', ha⟩ := hc s.database
    cases hcall.symm.trans ha

theorem ready_bind {batch : Bool} (position : Nat) (value : Value) :
    Secures (Ready i batch) (driver.perform (.bind i position value)) (fun _ => Ready i batch)
      fun _ => False :=
  ready_update (f := (·.bind position value)) (fun _ => ⟨(), rfl⟩) fun _ => rfl

theorem ready_addRows {batch : Bool} (rows : List (List Value)) :
    Secures (Ready i batch) (driver.addRows i rows) (fun _ => Ready i batch) fun _ => False := by
  have hadd : Secures (Ready i batch) (driver.perform (.addBatch i)) (fun _ => Ready i batch)
      fun _ => False :=
    ready_update (f := fun st => { st with added := st.added ++ [st.values] })
      (fun _ => ⟨(), rfl⟩) fun _ => rfl
  exact Driver.addRows_secures ready_bind hadd rows

/-! ## Executions -/

theorem executeRow_error {f : Failure} (hp : p table row = (.error f, table')) :
    Secures (Runs p i table (numbered 1 row) added) (driver.executeRow i true) (fun _ _ => False)
      fun _ => True := by
  intro s hs
  have hvalues : (s.database.statement i).values = row :=
    (congrArg (List.map Prod.snd) hs.bound).trans (map_numbered 1 row)
  rw [← hs.table] at hp
  rw [executeRow_run, hvalues, run_failed hs.procedure hp]
  trivial

/-- The keys of the execution take the place of those that were there. -/
theorem executeRow_ok {e : Execution (ResultSet Value) Value} (hp : p table row = (.ok e, table'))
    (hrow : row.length = width) {E : Session Memory → Prop} :
    Secures (fun s => Runs p i table (numbered 1 row) added s ∧ Requested i s)
      (driver.executeRow i true)
      (fun _ s => (Feeds p i width table' added s ∧ Requested i s) ∧
        (s.database.statement i).results.keys = e.keys) E := by
  have fed : Secures (Runs p i table (numbered 1 row) added) (driver.executeRow i true)
      (fun _ => Feeds p i width (p table row).2 added) fun _ => True := feeds_executeRow hrow true
  have kept : Secures (fun s => Runs p i table (numbered 1 row) added s ∧ Requested i s)
      (driver.executeRow i true)
      (fun _ s => Requested i s ∧ (s.database.statement i).results.keys = e.keys)
      fun _ => False := by
    rintro s ⟨hs, hrequested⟩
    have hvalues : (s.database.statement i).values = row :=
      (congrArg (List.map Prod.snd) hs.bound).trans (map_numbered 1 row)
    rw [← hs.table] at hp
    rw [executeRow_run, hvalues, run_done hs.procedure hp]
    change Requested i _ ∧ ((Memory.putStatement _ i _).statement i).results.keys = e.keys
    unfold Requested
    rw [statement_putStatement, if_pos rfl]
    exact ⟨hrequested, if_pos hrequested⟩
  rw [hp] at fed
  exact Secures.weaken (Secures.strengthen (Secures.unfailing fed kept) fun _ hs => ⟨hs.1, hs⟩)
    (fun _ _ hs => ⟨⟨hs.1, hs.2.1⟩, hs.2.2⟩) fun _ hs => hs

theorem runEach_toOption (hp : db.procedures.get? (db.statement i).sql = some p)
    (rows : List (List Value)) : (db.runEach i rows).1.toOption = p.executions db.table rows := by
  induction rows generalizing db with
  | nil => rfl
  | cons row rows ih =>
      unfold runEach Procedure.executions
      cases hrun : p db.table row with
      | mk outcome table' =>
          cases outcome with
          | error f =>
              rw [run_failed hp hrun]
              rfl
          | ok e =>
              rw [run_done hp hrun]
              let next : Memory :=
                (db.ran (db.statement i).sql table').putStatement i ((db.statement i).absorb e)
              have hnext : next.procedures.get? (next.statement i).sql = some p := by
                unfold next
                rw [statement_putStatement, if_pos rfl]
                exact hp
              have hrest : (next.runEach i rows).1.toOption = p.executions table' rows := ih hnext
              dsimp only
              rw [← hrest]
              cases (next.runEach i rows).1 <;> rfl

theorem executeLargeBatch_keys {bound : List (Nat × Value)} :
    Secures (fun s => Runs p i table bound rows s ∧ Ready i true s)
      (driver.perform (.executeLargeBatch i))
      (fun _ s => ∃ executions, p.executions table rows = some executions ∧ Requested i s ∧
        (s.database.statement i).results.keys =
          ResultSet.merge (executions.filterMap (·.keys)))
      fun _ => p.executions table rows = none := by
  rintro s ⟨hs, hrequested, hbatch⟩
  let emptied : Memory := s.database.putStatement i { s.database.statement i with added := [] }
  have hfresh : emptied.statement i = { s.database.statement i with added := [] } := by
    unfold emptied
    rw [statement_putStatement, if_pos rfl]
  have hprocedure : emptied.procedures.get? (emptied.statement i).sql = some p := by
    rw [hfresh]
    exact hs.procedure
  have hkept : ((emptied.runEach i rows).2.statement i).keysRequested = true := by
    rw [keysRequested_runEach, hfresh]
    exact hrequested
  have hresult := runEach_toOption hprocedure rows
  rw [show emptied.table = table from hs.table] at hresult
  cases hrun : emptied.runEach i rows with
  | mk outcome after =>
      rw [hrun] at hresult hkept
      have hadded : emptied.runEach i (s.database.statement i).added = (outcome, after) := by
        rw [hs.added]
        exact hrun
      cases outcome with
      | error f =>
          have hcall := Driver.perform_run (d := driver) (c := .executeLargeBatch i)
            (countBatch_failed (hbatch rfl) hadded)
          rw [hcall]
          exact hresult.symm
      | ok executions =>
          obtain ⟨statement, hheading, hcount, hkeys⟩ := countBatch_done (hbatch rfl) hadded
          have hcall := Driver.perform_run (d := driver) (c := .executeLargeBatch i) hcount
          have hput : (after.putStatement i statement).statement i = statement := by
            rw [statement_putStatement, if_pos rfl]
          rw [hcall]
          refine ⟨executions, hresult.symm, ?_, ?_⟩
          · change ((after.putStatement i statement).statement i).keysRequested = true
            rw [hput]
            exact (congrArg (·.2.1) hheading).trans hkept
          · change ((after.putStatement i statement).statement i).results.keys = _
            rw [hput]
            exact hkeys hkept

/-! ## Rows with their keys -/

theorem readKeys_collects {keys : Option (ResultSet Value)} :
    Secures (fun s => (Feeds p i width table added s ∧ Requested i s) ∧
        (s.database.statement i).results.keys = keys) (driver.readKeys i mapper)
      (fun a s => mapKeys mapper keys = some a ∧ Feeds p i width table added s ∧ Requested i s)
      fun _ => mapKeys mapper keys = none := by
  have read : Secures (fun s => Requested i s ∧ (s.database.statement i).results.keys = keys)
      (driver.readKeys i mapper) (fun a _ => mapKeys mapper keys = some a)
      fun _ => mapKeys mapper keys = none := by
    rintro s ⟨hrequested, rfl⟩
    have hresult : ((driver.readKeys i mapper).run s).1.toOption = _ := readKeys_toOption hrequested
    revert hresult
    cases ((driver.readKeys i mapper).run s).1 <;> exact fun h => h.symm
  have fed : Secures (Feeds p i width table added) (driver.readKeys i mapper)
      (fun _ => Feeds p i width table added) fun _ => True := feeds_readKeys mapper
  exact Secures.weaken (Secures.strengthen
    (Secures.along read (Secures.along fed requested_readKeys))
    fun _ hs => ⟨⟨hs.1.2, hs.2⟩, hs.1⟩) (fun _ _ hs => hs) fun _ hs => hs.1

/-- One by one, the keys of a row are mapped before the next row is run. -/
theorem keysEach_collects (hrows : ∀ row ∈ rows, row.length = width) :
    Secures (fun s => Feeds p i width table added s ∧ Ready i false s)
      (driver.keysEach i true mapper rows)
      (fun keys _ => p.collected mapper table rows = some keys)
      fun _ => p.collected mapper table rows = none := by
  induction rows generalizing table with
  | nil => exact Secures.pure fun _ _ => rfl
  | cons row rows ih =>
      obtain ⟨hrow, hrest⟩ := List.forall_mem_cons.mp hrows
      refine Secures.bind (Secures.unfailing (feeds_bindValues hrow)
        (Driver.bindFrom_secures ready_bind 1 row)).surfaced fun _ => ?_
      cases hp : p table row with
      | mk outcome table' =>
          cases outcome with
          | error f =>
              rw [Procedure.collected_of_error hp]
              refine Secures.bind (Q := fun _ _ => False) (Secures.discarded ?_)
                fun _ _ => False.elim
              exact Secures.weaken (Secures.strengthen (executeRow_error hp) fun _ hs => hs.1)
                (fun _ _ hs => hs) fun _ _ => rfl
          | ok e =>
              rw [Procedure.collected_of_ok hp]
              refine Secures.bind (Secures.strengthen (executeRow_ok hp hrow).discarded
                fun _ hs => ⟨hs.1, hs.2.requested⟩) fun _ => ?_
              refine Secures.bind (Secures.weaken readKeys_collects (fun _ _ hs => hs)
                fun _ hs => by rw [hs]; rfl) fun keys => ?_
              refine Secures.assuming fun hkeys => ?_
              rw [hkeys]
              refine Secures.bind (Secures.weaken (Secures.strengthen (ih hrest)
                fun _ hs => ⟨hs.1, hs.2, nofun⟩) (fun _ _ hs => hs) fun _ hs => by rw [hs]; rfl)
                fun rest => ?_
              exact Secures.pure fun _ hs => by rw [hs]; rfl

/-- As a batch, the keys of all rows are mapped after the last of them was run. -/
theorem runKeys_collects {columns : List Column} (hcolumns : p.KeysIn columns)
    (hrows : ∀ row ∈ rows, row.length = width) (batch : Bool) :
    Secures (fun s => Feeds p i width table [] s ∧ Ready i batch s)
      (driver.runKeys i rows true batch mapper)
      (fun keys _ => p.collected mapper table rows = some keys)
      fun _ => p.collected mapper table rows = none := by
  cases batch with
  | false => exact keysEach_collects hrows
  | true =>
      refine Secures.bind ((Secures.unfailing (feeds_addRows hrows) (ready_addRows rows)).surfaced)
        fun _ => ?_
      rw [List.nil_append]
      have hrun : Secures (fun s => Feeds p i width table rows s ∧ Ready i true s)
          (discard (surfaced (driver.perform (.executeLargeBatch i))))
          (fun _ s => (Feeds p i width (onRows p table rows) [] s ∧ Requested i s) ∧
            ∃ executions, p.executions table rows = some executions ∧
              (s.database.statement i).results.keys =
                ResultSet.merge (executions.filterMap (·.keys)))
          fun _ => p.collected mapper table rows = none := by
        have hkeys : Secures (fun s => Feeds p i width table rows s ∧ Ready i true s)
            (driver.perform (.executeLargeBatch i)) _ _ :=
          fun s ⟨⟨_, _, hs⟩, hready⟩ => executeLargeBatch_keys s ⟨hs, hready⟩
        have hfeeds : Secures (fun s => Feeds p i width table rows s ∧ Ready i true s)
            (driver.perform (.executeLargeBatch i)) _ _ :=
          Secures.strengthen feeds_executeLargeBatch fun _ hs => hs.1
        refine Secures.discarded (Secures.weaken (Secures.and hfeeds hkeys) ?_ ?_)
        · rintro counts s ⟨hs, executions, hexecutions, hrequested, hkeys⟩
          exact ⟨⟨hs, hrequested⟩, executions, hexecutions, hkeys⟩
        · rintro s ⟨-, hnone⟩
          rw [Procedure.collected, hnone]
          rfl
      refine Secures.bind hrun fun _ => ?_
      rintro s ⟨hs, executions, hexecutions, hkeys⟩
      rw [Procedure.collected_of_executions hcolumns hexecutions]
      exact Secures.weaken readKeys_collects (fun _ _ hs => hs.1) (fun _ hs => hs) s ⟨hs, hkeys⟩

/-! ## Settings -/

theorem tolerating_succeeds {setting : String} {act : Act Memory Failure Unit}
    (h : ∀ s f, (act.run s).1 = .error f → f.isUnsupported = true) :
    Secures (fun _ => True) (tolerating setting act) (fun _ _ => True) fun _ => False := by
  intro s _
  have hfailed := h s
  unfold tolerating
  generalize hrun : act.run s = result at hfailed
  obtain ⟨r, s₁⟩ := result
  rw [run_bind_of_ok (run_lift hrun)]
  cases r with
  | ok u => trivial
  | error f =>
      dsimp only
      rw [if_pos (hfailed f rfl)]
      trivial

/-- Of the settings only one is not supported, and that one is passed over. -/
theorem applyOptions_succeeds (options : Options) :
    Secures (fun _ => True) (driver.applyOptions i options) (fun _ _ => True) fun _ => False := by
  have each {γ : Type} {f : γ → Act Memory Error Unit}
      (h : ∀ a, Secures (fun _ => True) (f a) (fun _ _ => True) fun _ => False) (o : Option γ) :
      Secures (fun _ => True) (forM o f) (fun _ _ => True) fun _ => False := by
    cases o with
    | none => exact Secures.pure fun _ _ => trivial
    | some a => exact h a
  rw [Driver.applyOptions_eq]
  refine Secures.bind (each (fun timeout => ?timeout) _) fun _ => ?_
  case timeout => exact tolerating_succeeds (by rintro s f ⟨⟩)
  refine Secures.bind (tolerating_succeeds ?poolable) fun _ => ?_
  case poolable =>
    rintro s f ⟨⟩
    rfl
  refine Secures.bind (tolerating_succeeds (by rintro s f ⟨⟩)) fun _ => ?_
  refine Secures.bind (each (fun rows => ?fetchSize) _) fun _ => ?_
  case fetchSize => exact tolerating_succeeds (by rintro s f ⟨⟩)
  exact each (fun rows => tolerating_succeeds (by rintro s f ⟨⟩)) _

/-! ## Updates -/

/-- The keys that an update of the rows collects if nothing fails. Where there are no rows nothing
is asked of the database. -/
def collected (db : Memory) (sql : String) (mapper : RowMapper α) (rows : List (List Value)) :
    Option (List α) :=
  if rows.isEmpty then some []
  else if db.closed then none
  else (db.procedures.get? sql).bind fun p => p.collected mapper db.table rows

/-- What rows are run on is as in `db`, and auto-commit can be switched. -/
structure Poised (db after : Memory) : Prop where
  procedures : after.procedures = db.procedures
  table : after.table = db.table
  closed : after.closed = db.closed
  switchable : after.refuseAutoCommit = false

theorem prepare_collects {sql : String} {keys : GeneratedKeys} (hkeys : keys.isRequested = true)
    (hne : rows ≠ []) (hopen : db.closed = false) :
    Secures (fun s => Poised db s.database) (driver.prepare sql .dml keys)
      (fun i s => Stands db.procedures sql i width (fun _ => db.table) s ∧ Requested i s)
      fun _ => db.collected sql mapper rows = none := by
  intro s hs
  have hstands : Settled (fun i => Stands db.procedures sql i width fun _ => db.table)
      (fun _ => True)
      _ _ := stands_prepare .dml keys s ⟨hs.procedures, hs.table⟩
  have hclosed : ¬ s.database.closed = true := by
    rw [hs.closed, hopen]
    nofun
  by_cases hknown : (s.database.procedures.get? sql).isNone = true
  · have hprepare : s.database.prepare ⟨s.statements + 1⟩ sql .dml keys =
        (.error (unknown sql), s.database) := by
      unfold prepare
      rw [if_neg hclosed, if_pos hknown]
    rw [prepare_error hprepare]
    rw [hs.procedures, Option.isNone_iff_eq_none] at hknown
    change db.collected sql mapper rows = none
    unfold collected
    rw [if_neg (by simpa using hne), if_neg (by rw [hopen]; nofun), hknown]
    rfl
  · obtain ⟨after, hprepare, hrequested⟩ : ∃ after,
        s.database.prepare ⟨s.statements + 1⟩ sql .dml keys = (.ok (), after) ∧
          (after.statement ⟨s.statements + 1⟩).keysRequested = true := by
      unfold prepare
      rw [if_neg hclosed, if_neg hknown]
      refine ⟨_, rfl, ?_⟩
      change ((Memory.putStatement _ _ _).statement _).keysRequested = true
      rw [statement_putStatement, if_pos rfl]
      exact hkeys
    rw [prepare_ok hprepare] at hstands ⊢
    exact ⟨hstands, hrequested⟩

theorem requested_option {c : Call} (hc : c.isOption = true) :
    Keeps (Requested i) (driver.perform c) :=
  Secures.of_run fun s hs => by
    have hframed := (frames_call (.inr hc)).statement s.database i
    exact (congrArg MemoryStatement.keysRequested hframed).trans hs

theorem runUpdate_collects {sql : String} {keys : GeneratedKeys} (hkeys : keys.isRequested = true)
    (hne : rows ≠ []) (hrows : ∀ row ∈ rows, row.length = width) {columns : List Column}
    (hcolumns : ∀ p, db.procedures.get? sql = some p → p.KeysIn columns) {options : Options}
    (hlarge : options.large = true) :
    Secures (fun s => Poised db s.database) (driver.runUpdate sql keys rows options fun i batch =>
        driver.runKeys i rows options.large batch mapper)
      (fun a _ => db.collected sql mapper rows = some a)
      fun _ => db.collected sql mapper rows = none := by
  rw [hlarge]
  let stands (i : StatementId) (s : Session Memory) : Prop :=
    Stands db.procedures sql i width (fun _ => db.table) s ∧ Requested i s
  refine Secures.bind (Driver.runStatement_secures
    (A := fun closed s => closed = db.closed ∧ Poised db s.database)
    (R := fun i s => db.closed = false ∧ stands i s)
    (C := fun i s => db.closed = false ∧ stands i s)
    (F := fun _ _ => db.collected sql mapper rows = none)
    (W := fun i a s => db.collected sql mapper rows = some a)
    (driver.ask_triple ?_) ?_ ?_ (fun i => ?_) (fun i => ?_) fun _ _ hs => hs) fun r => ?_
  · rintro s closed after hprobe hs
    cases hprobe
    exact ⟨hs.closed, hs⟩
  · rintro s ⟨hclosed, -⟩
    unfold collected
    rw [if_neg (by simpa using hne), if_pos hclosed.symm]
  · refine Secures.assuming fun hopen => ?_
    exact Secures.weaken (prepare_collects hkeys hne hopen.symm) (fun _ _ hs => ⟨hopen.symm, hs⟩)
      fun _ hs => hs
  · refine Secures.assuming fun hopen => ?_
    have kept : Keeps (stands i) (driver.applyOptions i options) :=
      Keeps.applyOptions (fun s l hs => ⟨hs.1.mk_session _ _ _, hs.2⟩) options fun c hc _ =>
        Secures.along (stands_keeps (alters_of_isOption hc)) (requested_option hc)
    have succeeds := Secures.unfailing (E := fun _ => False) kept.yields
      (applyOptions_succeeds options)
    refine Secures.weaken (Secures.strengthen succeeds fun _ hs => ⟨hs, trivial⟩)
      (fun _ _ hs => ⟨hopen, hs.1⟩) fun _ hs => hs.elim
  · rintro s ⟨hopen, ⟨p, hp, hs⟩, hrequested⟩
    rw [run_bind_of_ok (run_lift (useBatch_run rows options s))]
    have hcollected : db.collected sql mapper rows = p.collected mapper db.table rows := by
      unfold collected
      rw [if_neg (by simpa using hne), if_neg (by rw [hopen]; nofun), hp]
      rfl
    rw [hcollected]
    exact runKeys_collects (hcolumns p hp) hrows _ s
      ⟨hs, hrequested, fun hbatch => (Bool.and_eq_true_iff.mp hbatch).2⟩
  · obtain ⟨a, guard⟩ := r
    refine Secures.assuming fun _ => ?_
    have closed : Secures (fun _ => db.collected sql mapper rows = some a)
        (driver.perform (.closeStatement guard.statement))
        (fun _ _ => db.collected sql mapper rows = some a)
        fun _ => db.collected sql mapper rows = none :=
      driver.perform_secures (fun _ _ _ _ hs => hs) (by rintro s f after ⟨⟩)
    exact Secures.bind closed.surfaced fun _ => Secures.pure fun _ hs => hs

/-! ## Transactions -/

/-- A transaction leaves its rows what they are run on, and none of its calls fails. -/
theorem poised_call {c : Call} (hc : c.isTransactional = true) (hne : ∀ q, c ≠ .rollbackTo q) :
    Secures (fun s => Poised db s.database) (driver.perform c) (fun _ s => Poised db s.database)
      fun _ => False := by
  cases c with
  | rollbackTo q => exact absurd rfl (hne q)
  | setAutoCommit enabled =>
      refine driver.perform_secures ?_ ?_
      · rintro s u after hcall hs
        obtain ⟨-, savepoints, rfl⟩ := switched hcall hs.switchable
        exact ⟨hs.procedures, hs.table, hs.closed, hs.switchable⟩
      · rintro s f after hcall hs
        cases (switched hcall hs.switchable).1
  | autoCommit | isolation | setIsolation | setSavepoint | releaseSavepoint | commit =>
      refine driver.perform_secures ?_ ?_
      · rintro s answer after ⟨⟩ hs
        exact ⟨hs.procedures, hs.table, hs.closed, hs.switchable⟩
      · rintro s f after ⟨⟩
  | _ => cases hc

theorem putBack_succeeds {a : Bool} {c : Option IsolationLevel} (v : β) :
    Secures (fun s => s.database.refuseAutoCommit = false) (driver.putBack a c v) (fun _ _ => True)
      fun _ => False := by
  refine Secures.weaken (Driver.putBack_secures (M := fun ok _ => ok = true)
    (R := fun ok _ => ok = true) (driver.perform_secures (fun _ _ _ _ _ => rfl) ?_)
    (fun b _ ok => driver.perform_secures (fun _ _ _ _ hok => hok) (by rintro s f after ⟨⟩))
    fun _ _ _ hok => hok) (fun _ _ _ => trivial) fun _ hok => nomatch hok
  rintro s f after hcall hs
  cases (switched hcall hs).1

/-- What a transaction comes to is what the act in it comes to, as none of its own calls fails. -/
theorem transacted_collects {options : Options} {act : Act Memory Error (List α)}
    {keys : Option (List α)}
    (hact : Secures (fun s => Poised db s.database) act (fun a _ => keys = some a)
      fun _ => keys = none)
    (hkeep : ∀ base, Keeps (Holds base []) act) :
    Secures (fun s => Poised db s.database) (driver.transacted rows options act)
      (fun a _ => keys = some a) fun _ => keys = none := by
  have switchable : Secures (fun s => Poised db s.database) act
      (fun _ s => s.database.refuseAutoCommit = false) fun _ => True := by
    intro s hs
    have hstart : Holds s.database [] s := by
      refine ⟨rfl, rfl, rfl, ?_, ?_, List.nodup_nil⟩ <;> exact nofun
    refine Secures.weaken (hkeep s.database) (fun _ s' hs' => ?_) (fun _ _ => trivial) s hstart
    exact (congrArg Surroundings.refuseAutoCommit hs'.1).trans hs.switchable
  have poised (c : Call) {E : Session Memory → Prop} (hc : c.isTransactional = true)
      (hne : ∀ q, c ≠ .rollbackTo q) :
      Secures (fun s => Poised db s.database) (driver.perform c)
        (fun _ s => Poised db s.database) E :=
    Secures.weaken (poised_call hc hne) (fun _ _ hs => hs) fun _ => False.elim
  unfold Driver.transacted
  split
  · exact Outline.secures {
      asked := fun _ s => Poised db s.database
      known := fun _ _ s => Poised db s.database
      manual := fun _ _ s => Poised db s.database
      unmarked := fun _ _ _ => False
      marked := fun _ _ _ s => Poised db s.database
      ready := fun _ _ _ _ s => Poised db s.database
      worked := fun _ _ _ _ v s => keys = some v ∧ s.database.refuseAutoCommit = false
      failing := fun _ _ _ _ _ => keys = none
      committed := fun _ _ _ v s => keys = some v ∧ s.database.refuseAutoCommit = false
      autoCommit := poised .autoCommit rfl nofun
      isolation := fun _ => poised .isolation rfl nofun
      setAutoCommit := fun _ _ => poised _ rfl nofun
      setSavepoint := fun _ _ => poised .setSavepoint rfl nofun
      restore := fun _ _ _ => False.elim
      changeIsolation := fun _ _ _ => Driver.changeIsolation_secures
        (A := fun _ _ s => Poised db s.database) (fun _ _ hs => hs)
        (fun _ _ _ => driver.ask_triple fun _ _ _ hprobe hs => by cases hprobe; exact hs)
        (fun _ _ hs => hs) fun _ => poised _ rfl nofun
      act := fun _ _ _ _ =>
        Secures.weaken (Secures.and hact switchable) (fun _ _ hs => hs) fun _ hs => hs.1
      commit := fun _ _ _ _ _ =>
        driver.perform_secures (by rintro s answer after ⟨⟩ hs; exact hs) (by rintro s f after ⟨⟩)
      putBack := fun a _ c v =>
        Secures.weaken (Secures.unfailing (Driver.putBack_value (F := fun v => keys = some v) a c v)
            (putBack_succeeds v))
          (fun _ _ hs => hs.1) fun _ hs => hs
      log := fun _ _ _ _ _ _ hs => hs
      abort := fun _ _ _ _ _ hs => hs }
  · exact hact

theorem executeUpdateWithKeys_collects {sql : String} {keys : GeneratedKeys}
    (hrows : ∀ row ∈ rows, row.length = width) {columns : List Column}
    (hcolumns : ∀ p, db.procedures.get? sql = some p → p.KeysIn columns) {options : Options}
    (hlarge : options.large = true) :
    Secures (fun s => Poised db s.database)
      (driver.executeUpdateWithKeys sql rows options keys mapper id)
      (fun a _ => db.collected sql mapper rows = some a)
      fun _ => db.collected sql mapper rows = none := by
  have hrequested : (if keys.isRequested then keys else .all).isRequested = true := by
    split
    · assumption
    · rfl
  have hdebug (text : String) : Secures (fun s => Poised db s.database)
      (ExceptT.lift (Session.debug text) : Act Memory Error Unit) (fun _ s => Poised db s.database)
      fun _ => db.collected sql mapper rows = none :=
    Secures.lift fun _ hs => hs
  unfold Driver.executeUpdateWithKeys
  rw [checkArity_of_width hrows]
  change Secures _ (if rows.isEmpty then _ else _) _ _
  split
  · rename_i hempty
    exact Secures.bind (hdebug _) fun _ => Secures.pure fun _ _ => if_pos hempty
  · rename_i hne
    refine Secures.bind (hdebug _) fun _ => Secures.bind (transacted_collects ?_ fun base => ?_)
      fun _ => Secures.pure fun _ hs => hs
    · exact runUpdate_collects hrequested (by simpa using hne) hrows hcolumns hlarge
    · exact (holds_custody base).runUpdate fun i batch =>
        (holds_custody base).runKeys i rows options.large batch mapper []

/-! ## Batches and single rows -/

variable {before : Memory} {sql : String}

/-- At most one row is never sent as a batch. -/
theorem executeUpdateWithKeys_alone (hlen : ¬ 1 < rows.length) (sql : String) (options : Options)
    (keys : GeneratedKeys) (mapper : RowMapper α) (aggregate : List α → β) :
    driver.executeUpdateWithKeys sql rows { options with batch := true } keys mapper aggregate =
      driver.executeUpdateWithKeys sql rows { options with batch := false } keys mapper
        aggregate := by
  have hsingle (batch : Bool) : driver.useBatch rows { options with batch } = pure false := by
    simp [Driver.useBatch, hlen]
  unfold Driver.executeUpdateWithKeys Driver.runUpdate
  rw [hsingle true, hsingle false]
  rfl

/-- Where an update is all or nothing, the table that it leaves depends on whether it succeeds. -/
theorem Atomic.table_eq {r r' : Except Error α × Session Memory} (h : Atomic sql rows before r)
    (h' : Atomic sql rows before r') (hsame : r.1.toOption = r'.1.toOption) :
    r.2.database.table = r'.2.database.table := by
  obtain ⟨result, s⟩ := r
  obtain ⟨result', s'⟩ := r'
  cases result with
  | ok a =>
      cases result' with
      | ok a' =>
          obtain ⟨p, hp, htable, -⟩ := h
          obtain ⟨p', hp', htable', -⟩ := h'
          obtain rfl : p = p' := Option.some.inj (hp.symm.trans hp')
          exact htable.trans htable'.symm
      | error e => cases hsame
  | error e =>
      cases result' with
      | ok a' => cases hsame
      | error e' => exact h.table.trans h'.table.symm

theorem executeUpdateWithKeys_table {s : Session Memory} (hnumbered : s.database.Numbered)
    (hswitchable : s.database.refuseAutoCommit = false) (hrows : ∀ row ∈ rows, row.length = width)
    (sql : String) (options : Options) (keys : GeneratedKeys) (mapper : RowMapper α) :
    let run (batch : Bool) :=
      (driver.executeUpdateWithKeys sql rows { options with batch } keys mapper id).run s
    (run true).1.toOption = (run false).1.toOption →
      (run true).2.database.table = (run false).2.database.table := by
  intro run hsame
  by_cases hlen : 1 < rows.length
  · have hatomic (batch : Bool) : Atomic sql rows s.database (run batch) :=
      atomic_of_settled (executeUpdateWithKeys_atomic sql hnumbered hswitchable hlen hrows
        { options with batch } keys mapper id s rfl)
    exact (hatomic true).table_eq (hatomic false) hsame
  · have halone : run true = run false :=
      congrArg (·.run s) (executeUpdateWithKeys_alone hlen sql options keys mapper id)
    rw [halone]

/-- As a batch and one by one, rows come to the same keys and leave the same table. The keys are
those of the first row, then those of the second, and so on; where they cannot be collected, both
fail. What the caller makes of the keys is made once, of a success. -/
theorem keys_batch_single {s : Session Memory} (hs : Reachable s.database)
    (hswitchable : s.database.refuseAutoCommit = false) (sql : String) {rows : List (List Value)}
    {width : Nat} (hrows : ∀ row ∈ rows, row.length = width) {columns : List Column}
    (hcolumns : ∀ p, s.database.procedures.get? sql = some p → p.KeysIn columns) (options : Options)
    (keys : GeneratedKeys) (mapper : RowMapper α) :
    let run (batch : Bool) {β : Type} (aggregate : List α → β) :=
      (driver.executeUpdateWithKeys sql rows { options with large := true, batch } keys mapper
        aggregate).run s
    (∀ batch, (run batch id).1.toOption = s.database.collected sql mapper rows) ∧
      (∀ batch {β : Type} (aggregate : List α → β),
        run batch aggregate = ((run batch id).1.map aggregate, (run batch id).2)) ∧
      (run true id).2.database.table = (run false id).2.database.table := by
  intro run
  have hkeys (batch : Bool) : (run batch id).1.toOption = s.database.collected sql mapper rows := by
    have hrun : Settled (fun a _ => s.database.collected sql mapper rows = some a)
        (fun _ => s.database.collected sql mapper rows = none) (run batch id).1 (run batch id).2 :=
      executeUpdateWithKeys_collects hrows hcolumns rfl s ⟨rfl, rfl, rfl, hswitchable⟩
    revert hrun
    cases (run batch id).1 <;> exact fun h => h.symm
  refine ⟨hkeys, fun batch β aggregate => ?_, ?_⟩
  · change (driver.executeUpdateWithKeys _ _ _ _ _ aggregate).run s = _
    rw [Driver.executeUpdateWithKeys_map, run_map]
  · exact executeUpdateWithKeys_table hs.numbered hswitchable hrows sql
      { options with large := true }
      keys mapper ((hkeys true).trans (hkeys false).symm)

/-- Two names, whose numbers are read. -/
theorem keys_batch_single_two_names :
    let s : Session Memory := { database := Memory.define {} "INSERT" Procedure.insert }
    let rows : List (List Value) := [[.text "Ada"], [.text "Grace"]]
    let mapper : RowMapper Value := fun row => row.get 1
    Reachable s.database ∧ s.database.refuseAutoCommit = false ∧ (∀ row ∈ rows, row.length = 1) ∧
      (∀ p, s.database.procedures.get? "INSERT" = some p → p.KeysIn [Procedure.idColumn]) ∧
      ∀ batch, ((driver.executeUpdateWithKeys "INSERT" rows { large := true, batch } .all mapper
        id).run s).1.toOption = some [.int 1, .int 2] := by
  intro s rows mapper
  have hs : Reachable s.database := .define _ _ .start
  have hswitchable : s.database.refuseAutoCommit = false := rfl
  have hrows : ∀ row ∈ rows, row.length = 1 := by simp [rows]
  have hcolumns : ∀ p, s.database.procedures.get? "INSERT" = some p →
      p.KeysIn [Procedure.idColumn] := by
    rintro p ⟨⟩ table table' values e set hrun hset
    unfold Procedure.insert at hrun
    split at hrun <;> cases hrun
    cases hset
    rfl
  have hcollected : s.database.collected "INSERT" mapper rows = some [.int 1, .int 2] := rfl
  refine ⟨hs, hswitchable, hrows, hcolumns, fun batch => ?_⟩
  rw [← hcollected]
  -- the theorem says it without running the update
  clear_value s rows
  exact (keys_batch_single hs hswitchable "INSERT" hrows hcolumns {} .all mapper).1 batch

end SqlGateway.Database.Memory
