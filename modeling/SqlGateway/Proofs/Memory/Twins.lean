import SqlGateway.Proofs.Act.Pair
import SqlGateway.Proofs.Memory.Rows

/-!
# Databases that differ in what their statements hold

What a statement is bound to, was given as a batch and has produced is its own: calls that are not
about these do the same whatever they are. Running rows one by one and running them as a batch
differ in nothing else.
-/

namespace SqlGateway.Database

/-- What a statement has from when it was prepared, and whether it was closed. -/
def MemoryStatement.heading (statement : MemoryStatement) : String × Bool × Bool :=
  (statement.sql, statement.keysRequested, statement.closed)

namespace Memory

/-- Two sessions are the same but for what the statements numbered above `n` hold. -/
structure Twins (n : Nat) (s s' : Session Memory) : Prop where
  database : s'.database = { s.database with statements := s'.database.statements }
  headings : ∀ i, (s'.database.statement i).heading = (s.database.statement i).heading
  older : ∀ i, i.number ≤ n → s'.database.statement i = s.database.statement i
  statements : s'.statements = s.statements
  cursors : s'.cursors = s.cursors
  log : s'.log = s.log
  started : n ≤ s.statements

/-- The statement `i`, which is numbered above `n`, holds the same in both, and no rows were added
to it. -/
structure Untried (n : Nat) (i : StatementId) (s s' : Session Memory) : Prop
    extends Twins n s s' where
  newer : n < i.number
  record : s'.database.statement i = s.database.statement i
  added : (s.database.statement i).added = []

/-- A change that neither looks at statements nor touches them. -/
def Frames (f : Memory → Memory) : Prop :=
  ∀ (db : Memory) r, f { db with statements := r } = { f db with statements := r }

theorem Frames.statements {f : Memory → Memory} (hf : Frames f) (db : Memory) :
    (f db).statements = db.statements := by
  have hkept := congrArg Memory.statements (hf db db.statements)
  exact hkept

theorem Frames.statement {f : Memory → Memory} (hf : Frames f) (db : Memory) (i : StatementId) :
    (f db).statement i = db.statement i :=
  congrArg (fun r => (r.get? i).getD {}) (hf.statements db)

variable {n : Nat} {i : StatementId} {s s' s'' : Session Memory}

namespace Twins

theorem refl (h : n ≤ s.statements) : Twins n s s :=
  ⟨rfl, fun _ => rfl, fun _ _ => rfl, rfl, rfl, rfl, h⟩

theorem symm (h : Twins n s s') : Twins n s' s where
  database := by rw [h.database]
  headings i := (h.headings i).symm
  older i hi := (h.older i hi).symm
  statements := h.statements.symm
  cursors := h.cursors.symm
  log := h.log.symm
  started := h.statements ▸ h.started

theorem trans (h : Twins n s s') (h' : Twins n s' s'') : Twins n s s'' where
  database := by rw [h'.database, h.database]
  headings i := (h'.headings i).trans (h.headings i)
  older i hi := (h'.older i hi).trans (h.older i hi)
  statements := h'.statements.trans h.statements
  cursors := h'.cursors.trans h.cursors
  log := h'.log.trans h.log
  started := h.started

/-- A change that is not about statements. -/
theorem change (h : Twins n s s') {f : Memory → Memory} (hf : Frames f) :
    Twins n { s with database := f s.database } { s' with database := f s'.database } where
  database := by
    change f s'.database = { f s.database with statements := (f s'.database).statements }
    rw [hf.statements, ← hf]
    exact congrArg f h.database
  headings i := by
    rw [hf.statement, hf.statement]
    exact h.headings i
  older i hi := by
    rw [hf.statement, hf.statement]
    exact h.older i hi
  statements := h.statements
  cursors := h.cursors
  log := h.log
  started := h.started

theorem count (h : Twins n s s') {m : Nat} (hm : n ≤ m) :
    Twins n { s with statements := m } { s' with statements := m } :=
  ⟨h.database, h.headings, h.older, rfl, h.cursors, h.log, hm⟩

/-- A change of what a later statement holds. -/
theorem put (h : Twins n s s') (hi : n < i.number) (statement : MemoryStatement)
    (hstatement : statement.heading = (s'.database.statement i).heading) :
    Twins n s { s' with database := s'.database.putStatement i statement } where
  database := congrArg
    (fun db : Memory => { db with statements := s'.database.statements.put i statement }) h.database
  headings j := by
    rw [statement_putStatement]
    split
    · rename_i hj
      rw [hstatement, hj]
      exact h.headings j
    · exact h.headings j
  older j hj := by
    rw [statement_putStatement, if_neg]
    · exact h.older j hj
    · rintro rfl
      omega
  statements := h.statements
  cursors := h.cursors
  log := h.log
  started := h.started

theorem put_both (h : Twins n s s') {statement statement' : MemoryStatement}
    (hheading : statement'.heading = statement.heading)
    (hold : i.number ≤ n → statement' = statement) :
    Twins n { s with database := s.database.putStatement i statement }
      { s' with database := s'.database.putStatement i statement' } where
  database := congrArg
    (fun db : Memory => { db with statements := s'.database.statements.put i statement' })
      h.database
  headings j := by
    rw [statement_putStatement, statement_putStatement]
    split
    · exact hheading
    · exact h.headings j
  older j hj := by
    rw [statement_putStatement, statement_putStatement]
    split
    · rename_i hij
      exact hold (hij ▸ hj)
    · exact h.older j hj
  statements := h.statements
  cursors := h.cursors
  log := h.log
  started := h.started

end Twins

/-! ## Calls that are not about what statements hold -/

theorem call_statements {c : Call} (hc : c.isTransactional = true ∨ c.isOption = true)
    (db : Memory) (r : Registry StatementId MemoryStatement) :
    call c { db with statements := r } =
      ((call c db).1, { (call c db).2 with statements := r }) := by
  cases c with
  | setAutoCommit enabled =>
      by_cases hrefused : (enabled && db.refuseAutoCommit) = true <;>
        simp [call, switchAutoCommit, record, hrefused]
  | rollbackTo savepoint =>
      cases hcopy : db.savepoints.lookup savepoint <;> simp [call, rollbackTo, record, hcopy]
  | autoCommit | isolation | setIsolation | setSavepoint | releaseSavepoint | commit | setTimeout
  | setPoolable | setEscapeProcessing | setFetchSize | setMaxRows => rfl
  | _ => simp [Call.isTransactional, Call.isOption] at hc

theorem frames_call {c : Call} (hc : c.isTransactional = true ∨ c.isOption = true) :
    Frames fun db => (call c db).2 :=
  fun db r => congrArg Prod.snd (call_statements hc db r)

theorem Twins.answer_eq (h : Twins n s s') {c : Call}
    (hc : c.isTransactional = true ∨ c.isOption = true) :
    (call c s.database).1 = (call c s'.database).1 := by
  have hanswer := congrArg Prod.fst (call_statements hc s.database s'.database.statements)
  rw [← h.database] at hanswer
  exact hanswer.symm

theorem twins_call {c : Call} (hc : c.isTransactional = true ∨ c.isOption = true) :
    Respects (Twins n) (driver.perform c) :=
  Respects.of_run fun _ _ h => ⟨h.answer_eq hc, h.change (frames_call hc)⟩

theorem untried_call {c : Call} (hc : c.isOption = true) :
    Respects (Untried n i) (driver.perform c) := by
  apply Respects.of_run
  intro s s' h
  have hkept (db : Memory) := (frames_call (.inr hc)).statement db i
  refine ⟨h.answer_eq (.inr hc), h.change (frames_call (.inr hc)), h.newer, ?_, ?_⟩
  · exact ((hkept _).trans h.record).trans (hkept _).symm
  · exact (congrArg MemoryStatement.added (hkept _)).trans h.added

theorem twins_note (level : LogLevel) (text : String) :
    Alike (Twins n) (Session.note level text) (Session.note level text) fun _ => Twins n := by
  intro s s' h
  exact ⟨rfl, h.database, h.headings, h.older, h.statements, h.cursors,
    congrArg (· ++ [(⟨level, text⟩ : LogEntry)]) h.log, h.started⟩

theorem untried_note (level : LogLevel) (text : String) :
    Alike (Untried n i) (Session.note level text) (Session.note level text)
      fun _ => Untried n i := by
  intro s s' h
  exact ⟨rfl, (twins_note level text s s' h.toTwins).2, h.newer, h.record, h.added⟩

theorem probe_eq (p : Probe) (db : Memory) (r : Registry StatementId MemoryStatement) :
    probe p { db with statements := r } = ((probe p db).1, { db with statements := r }) ∧
      (probe p db).2 = db := by
  cases p <;> exact ⟨rfl, rfl⟩

theorem twins_ask (p : Probe) :
    Alike (Twins n) (driver.ask p) (driver.ask p) fun _ => Twins n := by
  intro s s' h
  obtain ⟨hprobe, hkept⟩ := probe_eq p s.database s'.database.statements
  rw [← h.database] at hprobe
  change (probe p s.database).1 = (probe p s'.database).1 ∧
    Twins n { s with database := (probe p s.database).2 }
      { s' with database := (probe p s'.database).2 }
  rw [hprobe, hkept]
  exact ⟨rfl, h⟩

/-! ## Preparing and closing -/

section

variable {sql : String} {kind : StatementKind} {keys : GeneratedKeys} {db : Memory}

theorem prepare_ok {u : Unit}
    (h : s.database.prepare ⟨s.statements + 1⟩ sql kind keys = (.ok u, db)) :
    (driver.prepare sql kind keys).run s =
      (.ok ⟨s.statements + 1⟩, { s with database := db, statements := s.statements + 1 }) := by
  have hget : (get : Act Memory Failure (Session Memory)).run s = (.ok s, s) := rfl
  have hcall : (driver.perform (.prepare ⟨s.statements + 1⟩ sql kind keys)).run s =
      (.ok u, { s with database := db }) :=
    Driver.perform_run h
  exact (run_bind_of_ok hget).trans (run_bind_of_ok hcall)

theorem prepare_error {f : Failure}
    (h : s.database.prepare ⟨s.statements + 1⟩ sql kind keys = (.error f, db)) :
    (driver.prepare sql kind keys).run s = (.error f, { s with database := db }) := by
  have hget : (get : Act Memory Failure (Session Memory)).run s = (.ok s, s) := rfl
  have hcall : (driver.perform (.prepare ⟨s.statements + 1⟩ sql kind keys)).run s =
      (.error f, { s with database := db }) :=
    Driver.perform_run h
  exact (run_bind_of_ok hget).trans (run_bind_of_error hcall)

end

theorem prepare_statements (db : Memory) (i : StatementId) (sql : String) (kind : StatementKind)
    (keys : GeneratedKeys) :
    (∃ f, ∀ r, prepare { db with statements := r } i sql kind keys =
      (.error f, { db with statements := r })) ∨
    ∃ after : Memory, ∀ r, prepare { db with statements := r } i sql kind keys =
      (.ok (), putStatement { after with statements := r } i
        { sql, keysRequested := keys.isRequested }) := by
  by_cases hclosed : db.closed = true
  · left
    exact ⟨.plain "Connection is closed", fun r => if_pos hclosed⟩
  · by_cases hunknown : (db.procedures.get? sql).isNone = true
    · left
      exact ⟨unknown sql, fun r => (if_neg hclosed).trans (if_pos hunknown)⟩
    · right
      exact ⟨{ db.record (.prepare kind) with openStatements := db.openStatements + 1 },
        fun r => (if_neg hclosed).trans (if_neg hunknown)⟩

theorem twins_prepare (sql : String) (kind : StatementKind) (keys : GeneratedKeys) :
    Matches (Twins n) (driver.prepare sql kind keys) (driver.prepare sql kind keys)
      (fun i => Untried n i) (Twins n) := by
  intro s s' h
  have hnew : n < s.statements + 1 := Nat.lt_succ_of_le h.started
  rcases prepare_statements s.database ⟨s.statements + 1⟩ sql kind keys with
    ⟨f, hfailed⟩ | ⟨after, hprepared⟩
  · have hs := hfailed s.database.statements
    have hs' := hfailed s'.database.statements
    rw [← h.database, ← h.statements] at hs'
    rw [prepare_error hs, prepare_error hs']
    exact ⟨rfl, h⟩
  · have hs := hprepared s.database.statements
    have hs' := hprepared s'.database.statements
    rw [← h.database, ← h.statements] at hs'
    rw [prepare_ok hs, prepare_ok hs', h.statements]
    have hmade := (h.change (f := fun db => { after with statements := db.statements })
      fun _ _ => rfl).count (Nat.le_of_lt hnew)
    have hfresh (db : Memory) (statement : MemoryStatement) :
        (db.putStatement ⟨s.statements + 1⟩ statement).statement ⟨s.statements + 1⟩ =
          statement := by
      rw [statement_putStatement, if_pos rfl]
    exact ⟨rfl, hmade.put_both rfl fun _ => rfl, hnew, (hfresh _ _).trans (hfresh _ _).symm,
      congrArg MemoryStatement.added (hfresh _ _)⟩

theorem twins_closeStatement (i : StatementId) :
    Respects (Twins n) (driver.perform (.closeStatement i)) := by
  intro s s' h
  have hclosed : (s'.database.statement i).closed = (s.database.statement i).closed :=
    congrArg (fun heading => heading.2.2) (h.headings i)
  refine ⟨rfl, ?_⟩
  change Twins n { s with database := s.database.closeStatement i }
    { s' with database := s'.database.closeStatement i }
  unfold closeStatement
  dsimp only
  rw [hclosed]
  split
  · exact h
  · have hheading : { s'.database.statement i with closed := true : MemoryStatement }.heading =
        { s.database.statement i with closed := true : MemoryStatement }.heading :=
      congrArg (fun heading => (heading.1, heading.2.1, true)) (h.headings i)
    have hput := h.put_both hheading fun hi => congrArg (fun statement : MemoryStatement =>
      { statement with closed := true }) (h.older i hi)
    exact hput.change (f := fun db => { db with openStatements := db.openStatements - 1 })
      fun _ _ => rfl

/-! ## Executions -/

/-- A database after a procedure was run for the text. -/
def ran (sql : String) (table : Table) (db : Memory) : Memory :=
  { db with table, executed := db.executed ++ [sql] }

section

variable {db : Memory} {values : List Value} {p : Procedure} {table : Table}

theorem run_unknown (hp : db.procedures.get? (db.statement i).sql = none) :
    db.run i values = (.error (unknown (db.statement i).sql), db) := by
  simp only [Memory.run, hp]

theorem run_failed {f : Failure} (hp : db.procedures.get? (db.statement i).sql = some p)
    (h : p db.table values = (.error f, table)) :
    db.run i values = (.error f, db.ran (db.statement i).sql table) := by
  simp only [Memory.run, hp, h]
  rfl

theorem run_done {e : Execution (ResultSet Value) Value}
    (hp : db.procedures.get? (db.statement i).sql = some p)
    (h : p db.table values = (.ok e, table)) :
    db.run i values = (.ok e,
      (db.ran (db.statement i).sql table).putStatement i ((db.statement i).absorb e)) := by
  simp only [Memory.run, hp, h]
  rfl

end

theorem Twins.run (h : Twins n s s') (hi : n < i.number) (values : List Value) :
    (s.database.run i values).1 = (s'.database.run i values).1 ∧
      Twins n { s with database := (s.database.run i values).2 }
        { s' with database := (s'.database.run i values).2 } := by
  have hsql : (s'.database.statement i).sql = (s.database.statement i).sql :=
    congrArg (·.1) (h.headings i)
  have hprocedures : s'.database.procedures = s.database.procedures := by rw [h.database]
  have htable : s'.database.table = s.database.table := by rw [h.database]
  cases hp : s.database.procedures.get? (s.database.statement i).sql with
  | none =>
      have hp' := hp
      rw [← hprocedures, ← hsql] at hp'
      rw [run_unknown hp, run_unknown hp', hsql]
      exact ⟨rfl, h⟩
  | some p =>
      have hp' := hp
      rw [← hprocedures, ← hsql] at hp'
      cases hrun : p s.database.table values with
      | mk outcome table =>
          have hrun' := hrun
          rw [← htable] at hrun'
          have hran := h.change (f := ran (s.database.statement i).sql table) fun _ _ => rfl
          cases outcome with
          | error f =>
              rw [run_failed hp hrun, run_failed hp' hrun', hsql]
              exact ⟨rfl, hran⟩
          | ok e =>
              rw [run_done hp hrun, run_done hp' hrun', hsql]
              refine ⟨rfl, hran.put_both (h.headings i) fun hold => ?_⟩
              omega

theorem bound_run (db : Memory) (values : List Value) :
    ((db.run i values).2.statement i).bound = (db.statement i).bound := by
  unfold Memory.run
  dsimp only
  split
  · rfl
  · split
    · rw [statement_putStatement, if_pos rfl]
      rfl
    · rfl

/-! ## Rows one by one -/

/-- The values that a statement is run with if rows are bound one after another. -/
def fed (bound : List (Nat × Value)) : List (List Value) → List (List Value)
  | [] => []
  | row :: rows => (bindAll 1 row bound).map (·.2) :: fed (bindAll 1 row bound) rows

/-- A row can always be bound. -/
theorem bindFrom_run (hi : n < i.number) (position : Nat) (values : List Value)
    (h : Twins n s s') :
    ∃ t, (driver.bindFrom i position values).run s' = (.ok (), t) ∧ Twins n s t ∧
      (t.database.statement i).bound = bindAll position values (s'.database.statement i).bound ∧
      (t.database.statement i).added = (s'.database.statement i).added := by
  induction values generalizing position s' with
  | nil => exact ⟨s', rfl, h, rfl, rfl⟩
  | cons value values ih =>
      have hbind : (driver.perform (.bind i position value)).run s' = (.ok (),
          { s' with database := s'.database.update i (·.bind position value) }) :=
        Driver.perform_run rfl
      obtain ⟨t, hrun, ht, hbound, hadded⟩ := ih (position + 1)
        (h.put hi ((s'.database.statement i).bind position value) rfl)
      refine ⟨t, (run_bind_of_ok hbind).trans hrun, ht, ?_, ?_⟩
      · rw [hbound, statement_putStatement, if_pos rfl]
        rfl
      · rw [hadded, statement_putStatement, if_pos rfl]
        rfl

/-- What a loop over rows makes of the counts. -/
def totalOf (total : UInt64) (counts : List Int64) : UInt64 :=
  counts.foldl (fun total count => total + countRows count) total

theorem executeRow_run (i : StatementId) (s : Session Memory) :
    (driver.executeRow i true).run s =
      ((s.database.run i (s.database.statement i).values).1.map (·.count),
        { s with database := (s.database.run i (s.database.statement i).values).2 }) :=
  Driver.perform_run (d := driver) (c := .executeLargeUpdate i) rfl

/-- Rows that are run one by one are run with what is bound after each of them. -/
theorem countEach_run (hi : n < i.number) (rows : List (List Value)) (total : UInt64)
    {bound : List (Nat × Value)} (hbound : (s.database.statement i).bound = bound)
    (h : Twins n s s') :
    ((driver.countEach i true total rows).run s).1 =
        (s'.database.runEach i (fed bound rows)).1.map
          (fun executions => totalOf total (executions.map (·.count))) ∧
      Twins n ((driver.countEach i true total rows).run s).2
        { s' with database := (s'.database.runEach i (fed bound rows)).2 } := by
  induction rows generalizing s s' total bound with
  | nil => exact ⟨rfl, h⟩
  | cons row rows ih =>
      obtain ⟨t, hbind, ht, hrow, -⟩ := bindFrom_run hi 1 row h.symm
      rw [hbound] at hrow
      have hbind : (driver.bindValues i row).run s = (.ok (), t) := hbind
      have hvalues : (t.database.statement i).values = (bindAll 1 row bound).map (·.2) :=
        congrArg (List.map fun x : Nat × Value => x.2) hrow
      obtain ⟨houtcome, hran⟩ := ht.symm.run hi (t.database.statement i).values
      have hkept := (bound_run (i := i) t.database (t.database.statement i).values).trans hrow
      have hcount := executeRow_run i t
      unfold Driver.countEach
      rw [run_bind_of_ok hbind, fed, ← hvalues, runEach]
      cases hrun : t.database.run i (t.database.statement i).values with
      | mk outcome db =>
          cases hrun' : s'.database.run i (t.database.statement i).values with
          | mk outcome' db' =>
              rw [hrun, hrun'] at houtcome hran
              rw [hrun] at hcount hkept
              obtain rfl : outcome = outcome' := houtcome
              cases outcome with
              | error f =>
                  rw [run_bind_of_error hcount]
                  exact ⟨rfl, hran⟩
              | ok e =>
                  rw [run_bind_of_ok hcount]
                  obtain ⟨hresult, htwins⟩ := ih (total + countRows e.count) hkept hran
                  refine ⟨?_, htwins⟩
                  rw [hresult]
                  dsimp only
                  cases (runEach db' i (fed (bindAll 1 row bound) rows)).1 <;> rfl

/-! ## Rows as a batch -/

theorem addRows_run (hi : n < i.number) (rows : List (List Value)) {bound : List (Nat × Value)}
    (hbound : (s'.database.statement i).bound = bound) (h : Twins n s s') :
    ∃ t, (driver.addRows i rows).run s' = (.ok (), t) ∧ Twins n s t ∧
      (t.database.statement i).added = (s'.database.statement i).added ++ fed bound rows := by
  induction rows generalizing s' bound with
  | nil => exact ⟨s', rfl, h, by rw [fed, List.append_nil]⟩
  | cons row rows ih =>
      obtain ⟨t, hbind, ht, hrow, hadded⟩ := bindFrom_run hi 1 row h
      rw [hbound] at hrow
      have hbind : (driver.bindValues i row).run s' = (.ok (), t) := hbind
      have hvalues : (t.database.statement i).values = (bindAll 1 row bound).map (·.2) :=
        congrArg (List.map fun x : Nat × Value => x.2) hrow
      have hadd : (driver.perform (.addBatch i)).run t = (.ok (), { t with
          database := t.database.update i fun s => { s with added := s.added ++ [s.values] } }) :=
        Driver.perform_run rfl
      have hput := ht.put hi { t.database.statement i with
        added := (t.database.statement i).added ++ [(t.database.statement i).values] } rfl
      have hfresh (statement : MemoryStatement) :
          (t.database.putStatement i statement).statement i = statement := by
        rw [statement_putStatement, if_pos rfl]
      have hlater : ((t.database.putStatement i { t.database.statement i with
          added := (t.database.statement i).added ++ [(t.database.statement i).values] }).statement
          i).bound = bindAll 1 row bound := by
        rw [hfresh]
        exact hrow
      obtain ⟨u, hrest, hu, hlast⟩ := ih hlater hput
      refine ⟨u, (run_bind_of_ok hbind).trans ((run_bind_of_ok hadd).trans hrest), hu, ?_⟩
      rw [hlast, hfresh, fed, ← hvalues, ← hadded]
      simp

section

variable {db after : Memory}

theorem countBatch_failed {f : Failure} (hbatch : db.batch = true)
    (h : (db.putStatement i { db.statement i with added := [] }).runEach i
      (db.statement i).added = (.error f, after)) : db.countBatch i = (.error f, after) := by
  unfold countBatch
  rw [if_pos hbatch]
  simp only [h]

theorem countBatch_done {executions : List (Execution (ResultSet Value) Value)}
    (hbatch : db.batch = true)
    (h : (db.putStatement i { db.statement i with added := [] }).runEach i
      (db.statement i).added = (.ok executions, after)) :
    ∃ statement, statement.heading = (after.statement i).heading ∧
      db.countBatch i = (.ok (executions.map (·.count)), after.putStatement i statement) ∧
      ((after.statement i).keysRequested = true →
        statement.results.keys = ResultSet.merge (executions.filterMap (·.keys))) := by
  unfold countBatch
  rw [if_pos hbatch]
  simp only [h]
  exact ⟨_, by rfl, rfl, fun hrequested => if_pos hrequested⟩

end

theorem runRows_batch (rows : List (List Value)) (hbatch : s.database.batch = true)
    (h : Untried n i s s') :
    ((driver.runRows i rows true true).run s).1 = ((driver.runRows i rows true false).run s').1 ∧
      Twins n ((driver.runRows i rows true true).run s).2
        ((driver.runRows i rows true false).run s').2 := by
  obtain ⟨t, hadd, ht, hadded⟩ := addRows_run h.newer rows rfl (Twins.refl h.started)
  rw [h.added, List.nil_append] at hadded
  have hemptied := ht.put h.newer { t.database.statement i with added := [] } rfl
  obtain ⟨hsingle, htwins⟩ := countEach_run h.newer rows 0
    (congrArg MemoryStatement.bound h.record) (h.toTwins.symm.trans hemptied)
  have htbatch : t.database.batch = true := by
    rw [ht.database]
    exact hbatch
  change ((driver.runRows i rows true true).run s).1 = ((driver.countEach i true 0 rows).run s').1 ∧
    Twins n ((driver.runRows i rows true true).run s).2 ((driver.countEach i true 0 rows).run s').2
  rw [← hadded] at hsingle htwins
  unfold Driver.runRows
  rw [if_pos rfl, run_bind_of_ok hadd, hsingle]
  cases hrun : (t.database.putStatement i { t.database.statement i with added := [] }).runEach i
      (t.database.statement i).added with
  | mk outcome db =>
      rw [hrun] at htwins
      cases outcome with
      | error f =>
          have hcall : (driver.perform (.executeLargeBatch i)).run t =
              (.error f, { t with database := db }) :=
            Driver.perform_run (countBatch_failed htbatch hrun)
          rw [run_bind_of_error hcall]
          exact ⟨rfl, htwins.symm⟩
      | ok executions =>
          obtain ⟨statement, hheading, hcount, -⟩ := countBatch_done htbatch hrun
          have hcall : (driver.perform (.executeLargeBatch i)).run t =
              (.ok (executions.map (·.count)),
                { t with database := db.putStatement i statement }) :=
            Driver.perform_run hcount
          rw [run_bind_of_ok hcall]
          exact ⟨rfl, (htwins.put h.newer statement hheading).symm⟩

theorem runRows_single (rows : List (List Value)) (h : Untried n i s s') :
    ((driver.runRows i rows true false).run s).1 = ((driver.runRows i rows true false).run s').1 ∧
      Twins n ((driver.runRows i rows true false).run s).2
        ((driver.runRows i rows true false).run s').2 := by
  obtain ⟨hresult, htwins⟩ := countEach_run h.newer rows 0 rfl h.toTwins
  obtain ⟨hresult', htwins'⟩ := countEach_run h.newer rows 0
    (congrArg MemoryStatement.bound h.record) (h.toTwins.symm.trans h.toTwins)
  exact ⟨hresult.trans hresult'.symm, htwins.trans htwins'.symm⟩

/-- Rows that are run as a batch and rows that are run one by one have the same outcome, and change
the same. -/
theorem runRows_matches (rows : List (List Value)) (batch : Bool) :
    Matches (fun s s' => (batch = true → s.database.batch = true) ∧ Untried n i s s')
      (driver.runRows i rows true batch) (driver.runRows i rows true false)
      (fun _ => Twins n) (Twins n) := by
  apply Respects.of_run
  rintro s s' ⟨hbatch, h⟩
  cases batch with
  | true => exact runRows_batch rows (hbatch rfl) h
  | false => exact runRows_single rows h

end Memory

end SqlGateway.Database
