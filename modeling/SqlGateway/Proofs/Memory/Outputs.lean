import SqlGateway.Proofs.Custody.Execution
import SqlGateway.Proofs.Memory.Collected
import SqlGateway.Proofs.Walk.Fetching
import SqlGateway.Proofs.Walk.Outputs

/-!
# Output values of procedure calls

A call runs the procedure of its text with the values that its parameters pass in. What is asked
about its output parameters is answered with the values that the procedure brings out, at once or
when the cursor of the call has been walked to its end.
-/

namespace SqlGateway.Database

open Parameter

/-- What a call of a text with values comes to: the procedure of the text is run with them. -/
def Memory.called (db : Memory) (sql : String) (values : List Value) :
    Except Error (Execution (ResultSet Value) Value) × Table :=
  if db.closed then (.error (.execution .connectionClosed), db.table)
  else match db.procedures.get? sql with
    | none => (.error (.ofFailure (Memory.unknown sql)), db.table)
    | some p => ((p db.table values).1.mapError Error.ofFailure, (p db.table values).2)

namespace Memory

variable {τ α : Type} {p : Procedure} {i : StatementId} {table table' : Table}
  {bound : List (Nat × Value)} {slots : List OutSlot} {out : List (Nat × Value)}
  {s : Session Memory}

/-! ## Before the execution -/

/-- The statement `i` stands for the procedure, the values are bound to it and the slots are
registered. -/
structure Called (p : Procedure) (i : StatementId) (table : Table) (bound : List (Nat × Value))
    (slots : List OutSlot) (s : Session Memory) : Prop where
  procedure : s.database.procedures.get? (s.database.statement i).sql = some p
  table : s.database.table = table
  bound : (s.database.statement i).bound = bound
  registered : ∀ slot ∈ slots,
    (s.database.statement i).registered.get? slot.position = some slot.type

theorem called_option {c : Call} (hc : c.isOption = true) :
    Keeps (Called p i table bound slots) (driver.perform c) := by
  refine Secures.of_run fun s hs => ?_
  cases c with
  | setTimeout | setPoolable | setEscapeProcessing | setFetchSize | setMaxRows =>
      exact ⟨hs.procedure, hs.table, hs.bound, hs.registered⟩
  | _ => cases hc

theorem called_applyOptions (options : Options) :
    Secures (Called p i table bound slots) (driver.applyOptions i options)
      (fun _ => Called p i table bound slots) fun _ => False := by
  have kept : Keeps (Called p i table bound slots) (driver.applyOptions i options) :=
    Keeps.applyOptions (fun _ _ hs => ⟨hs.procedure, hs.table, hs.bound, hs.registered⟩) options
      fun _ hc _ => called_option hc
  exact Secures.weaken (Secures.strengthen (Secures.and kept fun s _ =>
    applyOptions_succeeds options s trivial) fun _ hs => hs) (fun _ _ hs => hs.1) fun _ hs => hs.2

open MemoryStatement (insertBound)

theorem insertBound_of_lt {position : Nat} (value : Value) (h : ∀ e ∈ bound, e.1 < position) :
    insertBound position value bound = bound ++ [(position, value)] := by
  induction bound with
  | nil => rfl
  | cons e bound ih =>
      obtain ⟨hlt, hrest⟩ := List.forall_mem_cons.mp h
      rw [insertBound_cons_of_lt hlt, ih hrest]
      rfl

variable {position : Nat}

theorem called_bind (value : Value) (h : ∀ e ∈ bound, e.1 < position) :
    Secures (Called p i table bound slots) (driver.perform (.bind i position value))
      (fun _ => Called p i table (bound ++ [(position, value)]) slots) fun _ => False := by
  refine driver.perform_secures ?_ fun _ _ _ hcall => by cases hcall
  rintro s u db hcall hs
  cases hcall
  have hput (st : MemoryStatement) : (s.database.putStatement i st).statement i = st := by
    rw [statement_putStatement, if_pos rfl]
  refine ⟨?_, hs.table, ?_, ?_⟩
  · change Registry.get? ((s.database.putStatement i _).statement i).sql _ = _
    rw [hput]
    exact hs.procedure
  · change ((s.database.putStatement i _).statement i).bound = _
    rw [hput, ← insertBound_of_lt value h, ← hs.bound]
    rfl
  · change ∀ slot ∈ slots, ((s.database.putStatement i _).statement i).registered.get? _ = _
    rw [hput]
    exact hs.registered

theorem called_registerOut (name : String) (type : SqlType)
    (h : ∀ slot ∈ slots, slot.position < position) :
    Secures (Called p i table bound slots) (driver.perform (.registerOut i position type))
      (fun _ => Called p i table bound (slots ++ [⟨position, name, type⟩])) fun _ => False := by
  refine driver.perform_secures ?_ fun _ _ _ hcall => by cases hcall
  rintro s u db hcall hs
  cases hcall
  have hput (st : MemoryStatement) : (s.database.putStatement i st).statement i = st := by
    rw [statement_putStatement, if_pos rfl]
  refine ⟨?_, hs.table, ?_, ?_⟩
  · change Registry.get? ((s.database.putStatement i _).statement i).sql _ = _
    rw [hput]
    exact hs.procedure
  · change ((s.database.putStatement i _).statement i).bound = _
    rw [hput]
    exact hs.bound
  · change ∀ slot ∈ _, ((s.database.putStatement i _).statement i).registered.get? _ = _
    rw [hput]
    refine List.forall_mem_append.mpr ⟨fun slot hslot => ?_, List.forall_mem_singleton.mpr ?_⟩
    · have hne : position ≠ slot.position := (Nat.ne_of_lt (h slot hslot)).symm
      exact (Registry.get?_put_of_ne hne _ _).trans (hs.registered slot hslot)
    · exact Registry.get?_put _ _ _

theorem called_bindParameter (param : Parameter) (hb : ∀ e ∈ bound, e.1 < position)
    (hs : ∀ slot ∈ slots, slot.position < position) :
    Secures (Called p i table bound slots) (driver.bindParameter i position param)
      (fun _ => Called p i table (bound ++ (param.bound? position).toList)
        (slots ++ (param.slot? position).toList)) fun _ => False := by
  have bind : Secures (Called p i table bound slots)
      (forM param.value? fun value => driver.perform (.bind i position value))
      (fun _ => Called p i table (bound ++ (param.bound? position).toList) slots)
      fun _ => False := by
    unfold bound?
    cases param.value? with
    | none => exact Secures.pure fun _ hs => (List.append_nil bound).symm ▸ hs
    | some value => exact called_bind value hb
  rw [Driver.bindParameter_eq]
  refine Secures.bind bind fun _ => ?_
  unfold slot?
  cases param.outType? with
  | none => exact Secures.pure fun _ hs => (List.append_nil slots).symm ▸ hs
  | some type => exact called_registerOut param.name type hs

theorem called_bindParametersFrom (params : List Parameter) (hb : ∀ e ∈ bound, e.1 < position)
    (hs : ∀ slot ∈ slots, slot.position < position) :
    Secures (Called p i table bound slots) (driver.bindParametersFrom i position params)
      (fun given s => given = slotsFrom position params ∧
        Called p i table (bound ++ boundFrom position params)
          (slots ++ slotsFrom position params) s)
      fun _ => False := by
  induction params generalizing position bound slots with
  | nil =>
      refine Secures.pure fun s hs => ⟨rfl, ?_⟩
      rwa [show boundFrom position [] = [] from rfl, show slotsFrom position [] = [] from rfl,
        List.append_nil, List.append_nil]
  | cons param params ih =>
      refine Secures.bind (called_bindParameter param hb hs) fun _ => ?_
      have hbound : ∀ e ∈ bound ++ (param.bound? position).toList, e.1 < position + 1 := by
        refine List.forall_mem_append.mpr ⟨fun e he => Nat.lt_succ_of_lt (hb e he), fun e he => ?_⟩
        obtain ⟨value, -, rfl⟩ := Option.map_eq_some_iff.mp (Option.mem_toList.mp he)
        exact Nat.lt_succ_self _
      have hslots : ∀ slot ∈ slots ++ (param.slot? position).toList,
          slot.position < position + 1 := by
        refine List.forall_mem_append.mpr ⟨fun e he => Nat.lt_succ_of_lt (hs e he), fun e he => ?_⟩
        rw [slot?_position (Option.mem_toList.mp he)]
        exact Nat.lt_succ_self _
      refine Secures.bind (ih hbound hslots) fun given => ?_
      refine Secures.assuming fun hgiven => ?_
      rw [boundFrom_cons, slotsFrom_cons, ← List.append_assoc, ← List.append_assoc, hgiven]
      unfold slot?
      cases param.outType? <;> exact Secures.pure fun _ hs => ⟨rfl, hs⟩

/-! ## After the execution -/

/-- The statement `i` has the output values, and the slots are registered. -/
structure Recalls (i : StatementId) (slots : List OutSlot) (out : List (Nat × Value))
    (table : Table) (s : Session Memory) : Prop where
  table : s.database.table = table
  out : (s.database.statement i).results.out = out
  registered : ∀ slot ∈ slots,
    (s.database.statement i).registered.get? slot.position = some slot.type

/-- What output values come from. -/
def served (db : Memory) (i : StatementId) : Table × List (Nat × Value) × Registry Nat SqlType :=
  (db.table, (db.statement i).results.out, (db.statement i).registered)

theorem served_putStatement (db : Memory) {i j : StatementId} (st : MemoryStatement)
    (hout : st.results.out = (db.statement j).results.out)
    (hregistered : st.registered = (db.statement j).registered) :
    (db.putStatement j st).served i = db.served i := by
  unfold served
  rw [statement_putStatement]
  split
  · rename_i hj
    rw [hout, hregistered, hj]
    rfl
  · rfl

theorem out_advance (r : Results (ResultSet Value) Value) : r.advance.2.out = r.out := by
  unfold Results.advance
  split <;> rfl

/-- Fetching leaves output values as they are. -/
theorem served_call (db : Memory) {c : Call} (hc : c.fetches = true) (i : StatementId) :
    (call c db).2.served i = db.served i := by
  cases c with
  | resultCursor j k =>
      have hput := db.served_putStatement (i := i) (j := j)
        { db.statement j with results := (db.statement j).results.withoutCurrent } rfl rfl
      simp only [call, openCursor]
      split <;> exact hput
  | moreResults j => exact db.served_putStatement _ (out_advance _) rfl
  | closeStatement j =>
      simp only [call, closeStatement]
      split
      · rfl
      · exact db.served_putStatement { db.statement j with closed := true } rfl rfl
  | next k =>
      simp only [call, next]
      split <;> rfl
  | closeCursor k =>
      simp only [call, closeCursor]
      split <;> rfl
  | outValue | columns | getObject | getBinaryStream | getCharacterStream => rfl
  | _ => cases hc

theorem recalls_unfetched : Unfetched driver (Recalls i slots out table) where
  log _ _ hs := ⟨hs.table, hs.out, hs.registered⟩
  count _ _ _ hs := ⟨hs.table, hs.out, hs.registered⟩
  call c hc := Secures.of_run fun s hs => by
    have hkept : (call c s.database).2.served i = s.database.served i := served_call s.database hc i
    refine ⟨(congrArg (·.1) hkept).trans hs.table, (congrArg (·.2.1) hkept).trans hs.out, ?_⟩
    change ∀ slot ∈ slots, ((call c s.database).2.served i).2.2.get? slot.position = _
    rw [hkept]
    exact hs.registered

theorem Recalls.of_served {registered : Registry Nat SqlType}
    (h : s.database.served i = (table, out, registered))
    (hr : ∀ slot ∈ slots, registered.get? slot.position = some slot.type) :
    Recalls i slots out table s := by
  cases h
  exact ⟨rfl, rfl, hr⟩

theorem execute_error {f : Failure} (h : Called p i table bound slots s)
    (hp : p table (bound.map (·.2)) = (.error f, table')) :
    ∃ s', (driver.perform (.execute i)).run s = (.error f, s') ∧ s'.database.table = table' := by
  rw [← h.table, ← h.bound] at hp
  have hcall : driver.call (.execute i) s.database =
      (.error f, s.database.ran (s.database.statement i).sql table') := by
    change s.database.execute i = _
    unfold execute MemoryStatement.values
    rw [run_failed h.procedure hp]
  exact ⟨_, Driver.perform_run hcall, rfl⟩

theorem execute_ok {e : Execution (ResultSet Value) Value} (h : Called p i table bound slots s)
    (hp : p table (bound.map (·.2)) = (.ok e, table')) :
    ∃ moved s', (driver.perform (.execute i)).run s = (.ok moved, s') ∧
      Recalls i slots e.out table' s' := by
  rw [← h.table, ← h.bound] at hp
  let ran : Memory := (s.database.ran (s.database.statement i).sql table').putStatement i
    ((s.database.statement i).absorb e)
  have hcall : driver.call (.execute i) s.database =
      (.ok (ran.advance i).1, (ran.advance i).2) := by
    change s.database.execute i = _
    unfold execute MemoryStatement.values
    rw [run_done h.procedure hp]
  have hran : ran.served i = (table', e.out, (s.database.statement i).registered) := by
    unfold ran served
    rw [statement_putStatement, if_pos rfl]
    rfl
  refine ⟨_, _, Driver.perform_run hcall, Recalls.of_served (Eq.trans ?_ hran) h.registered⟩
  exact ran.served_putStatement _ (out_advance _) rfl

/-- What is asked about the slots is answered with the output values. -/
theorem readOut_recalls {mapper : OutMapper τ} (hm : mapper.BySlot)
    (e : Execution (ResultSet Value) Value) :
    Triple (Recalls i slots e.out table) (driver.readOut i (mapper slots)).run fun r s =>
      r = (mapper slots).run.eval (OutSlot.told (Results.ofExecution e).outValue) ∧
        Recalls i slots e.out table s := by
  refine Reading.Within.run_eq_eval (hm slots) ?_
  rintro r ⟨slot, hslot, rfl⟩ s hs
  refine ⟨?_, hs⟩
  change s.database.outValue i slot.position slot.type = _
  unfold outValue Results.outValue
  dsimp only
  rw [if_pos (hs.registered slot hslot), hs.out]
  rfl

/-! ## Statements of calls -/

variable {sql : String} {params : List Parameter} {options : Options} {e : Error}
  {done : Execution (ResultSet Value) Value}

/-- A text that is known is prepared, with nothing bound to it. -/
theorem guardStatement_called (kind : StatementKind) (keys : GeneratedKeys)
    (hopen : s.database.closed = false) (hp : s.database.procedures.get? sql = some p) :
    ∃ i s', (driver.guardStatement sql kind keys).run s = (.ok ⟨i, .prepared⟩, s') ∧
      Called p i s.database.table [] [] s' := by
  have hask : driver.ask .isClosed s = (false, s) := by
    rw [← hopen]
    rfl
  obtain ⟨db, hprepare, hcalled⟩ : ∃ db,
      s.database.prepare ⟨s.statements + 1⟩ sql kind keys = (.ok (), db) ∧
        Called p ⟨s.statements + 1⟩ s.database.table [] []
          { s with database := db, statements := s.statements + 1 } := by
    unfold prepare
    rw [if_neg (by rw [hopen]; nofun), if_neg (by rw [hp]; nofun)]
    refine ⟨_, rfl, ?_, rfl, ?_, List.forall_mem_nil _⟩
    · change Registry.get? ((Memory.putStatement _ _ _).statement _).sql _ = _
      rw [statement_putStatement, if_pos rfl]
      exact hp
    · change ((Memory.putStatement _ _ _).statement _).bound = _
      rw [statement_putStatement, if_pos rfl]
  exact ⟨_, _, guardStatement_run hask (prepare_ok hprepare), hcalled⟩

/-- A call whose text is known is prepared, configured and bound before anything can fail. -/
theorem called_statement (kind : StatementKind) (keys : GeneratedKeys) (params : List Parameter)
    (options : Options) (hopen : s.database.closed = false)
    (hp : s.database.procedures.get? sql = some p) :
    ∃ i s₁ s₂ s₃, (driver.guardStatement sql kind keys).run s = (.ok ⟨i, .prepared⟩, s₁) ∧
      (driver.applyOptions i options).run s₁ = (.ok (), s₂) ∧
      (driver.bindParameters i params).run s₂ = (.ok (outputs params), s₃) ∧
      Called p i s.database.table (boundFrom 1 params) (outputs params) s₃ := by
  obtain ⟨i, s₁, hguard, hs⟩ := guardStatement_called kind keys hopen hp
  obtain ⟨⟨⟩, s₂, hoptions, hs⟩ := (called_applyOptions options).exists_run hs
  obtain ⟨given, s₃, hbind, rfl, hs⟩ := (called_bindParametersFrom params
    (List.forall_mem_nil _) (List.forall_mem_nil _)).exists_run hs
  exact ⟨i, s₁, s₂, s₃, hguard, hoptions, hbind, hs⟩

theorem dropGuard_table (guard : StatementGuard) :
    Triple (fun s => s.database.table = table) (driver.dropGuard guard)
      fun _ s => s.database.table = table := by
  refine Secures.orWarn (fun _ _ hs => hs) (Secures.of_run fun s hs => ?_)
  change (s.database.closeStatement guard.statement).table = table
  unfold closeStatement
  dsimp only
  split <;> exact hs

theorem executeCallStatement_unlogged (s : Session Memory) (sql : String) (params : List Parameter)
    (options : Options) : ∃ s₀ : Session Memory, s₀.database = s.database ∧
      (driver.executeCallStatement sql params options).run s =
        (driver.runStatement sql .procedureCall .none (driver.applyOptions · options) fun i =>
          surfaced do
            let slots ← driver.bindParameters i params
            return (slots, ← driver.perform (.execute i))).run s₀ := by
  let entry : LogEntry := ⟨.debug, s!"Executing call: {Sql.renderCall sql params}"⟩
  exact ⟨{ s with log := s.log ++ [entry] }, rfl, run_bind_of_ok (run_lift rfl)⟩

theorem bindParameters_execute {s₁ s₂ : Session Memory} {r : Except Failure Bool}
    (hbind : (driver.bindParameters i params).run s = (.ok slots, s₁))
    (hexecute : (driver.perform (.execute i)).run s₁ = (r, s₂)) :
    (surfaced do
      let slots ← driver.bindParameters i params
      return (slots, ← driver.perform (.execute i))).run s =
        ((r.map (slots, ·)).mapError Error.ofFailure, s₂) := by
  refine surfaced_run ?_
  rw [run_bind_of_ok hbind]
  cases r with
  | ok moved => exact run_bind_of_ok hexecute
  | error f => exact run_bind_of_error hexecute

theorem executeCallStatement_error (options : Options)
    (h : s.database.called sql (inputs params) = (.error e, table)) :
    ∃ s', (driver.executeCallStatement sql params options).run s = (.error e, s') ∧
      s'.database.table = table := by
  obtain ⟨s₀, hdatabase, hrun⟩ := executeCallStatement_unlogged s sql params options
  rw [← hdatabase] at h
  rw [hrun]
  unfold called at h
  split at h
  · rename_i hclosed
    cases h
    have hask : driver.ask .isClosed s₀ = (true, s₀) := by
      rw [← hclosed]
      rfl
    exact ⟨s₀, run_bind_of_error (run_bind_of_ok (run_lift hask)), rfl⟩
  · rename_i hopen
    split at h
    · rename_i hunknown
      cases h
      have hask : driver.ask .isClosed s₀ = (false, s₀) := by
        rw [← Bool.eq_false_iff.mpr hopen]
        rfl
      have hprepare : s₀.database.prepare ⟨s₀.statements + 1⟩ sql .procedureCall .none =
          (.error (unknown sql), s₀.database) := by
        unfold prepare
        rw [if_neg hopen, if_pos (by rw [hunknown]; rfl)]
      exact ⟨_, run_bind_of_error (guardStatement_run hask (prepare_error hprepare)), rfl⟩
    · rename_i p hp
      obtain ⟨i, s₁, s₂, s₃, hguard, hoptions, hbind, hs₃⟩ := called_statement
        .procedureCall .none params options (Bool.eq_false_iff.mpr hopen) hp
      cases hcall : p s₀.database.table (inputs params) with
      | mk outcome table' =>
          rw [hcall] at h
          cases outcome with
          | ok done => cases h
          | error f =>
              cases h
              rw [← map_boundFrom 1] at hcall
              obtain ⟨s₄, hexecute, htable⟩ := execute_error hs₃ hcall
              have haction := bindParameters_execute hbind hexecute
              refine ⟨_, runStatement_error hguard hoptions haction, ?_⟩
              exact dropGuard_table _ _ htable

theorem executeCallStatement_ok (options : Options)
    (h : s.database.called sql (inputs params) = (.ok done, table)) :
    ∃ i moved s', (driver.executeCallStatement sql params options).run s =
        (.ok ((outputs params, moved), ⟨i, .succeeded⟩), s') ∧
      Recalls i (outputs params) done.out table s' := by
  obtain ⟨s₀, hdatabase, hrun⟩ := executeCallStatement_unlogged s sql params options
  rw [← hdatabase] at h
  rw [hrun]
  unfold called at h
  split at h
  · cases h
  · rename_i hopen
    split at h
    · cases h
    · rename_i p hp
      obtain ⟨i, s₁, s₂, s₃, hguard, hoptions, hbind, hs₃⟩ := called_statement
        .procedureCall .none params options (Bool.eq_false_iff.mpr hopen) hp
      cases hcall : p s₀.database.table (inputs params) with
      | mk outcome table' =>
          rw [hcall] at h
          cases outcome with
          | error f => cases h
          | ok done =>
              cases h
              rw [← map_boundFrom 1] at hcall
              obtain ⟨moved, s₄, hexecute, hs₄⟩ := execute_ok hs₃ hcall
              have haction := bindParameters_execute hbind hexecute
              exact ⟨i, moved, s₄, runStatement_ok hguard hoptions haction, hs₄⟩

/-! ## Calls -/

/-- Opening the rows of a call that has been executed cannot fail. -/
theorem openCallRows_recalls (hasRows : Bool) (hs : Recalls i slots out table s) :
    ∃ current s', (driver.openCallRows i hasRows).run s = (.ok current, s') ∧
      Recalls i slots out table s' := by
  cases hasRows with
  | false => exact ⟨none, s, rfl, hs⟩
  | true =>
      generalize hopen : (driver.openCursor i).run s = result
      obtain ⟨r, s'⟩ := result
      have hkept := (Keeps.openCursor recalls_unfetched.count fun k =>
        recalls_unfetched.call (.resultCursor i k) rfl).run.of_run hs hopen
      obtain ⟨current, rfl⟩ : ∃ current, r = .ok current := by
        obtain ⟨answer, s₁, hcall, ⟨f, rfl, -⟩ | ⟨-, rfl, -⟩ | ⟨-, rfl, -⟩⟩ := openCursor_run hopen
        · cases hcall
        · exact ⟨none, rfl⟩
        · exact ⟨_, rfl⟩
      exact ⟨current, s', run_bind_of_ok (run_lift hopen), hkept⟩

theorem invokeCall_recalls {mapper : OutMapper τ} (hm : mapper.BySlot) (options : Options)
    (h : s.database.called sql (inputs params) = (.ok done, table)) :
    ∃ s', (driver.invokeCall sql params options mapper).run s =
        ((mapper (outputs params)).run.eval (OutSlot.told (Results.ofExecution done).outValue),
          s') ∧
      s'.database.table = table := by
  obtain ⟨i, moved, s₁, hrun, hs₁⟩ := executeCallStatement_ok options h
  obtain ⟨hresult, hs₂⟩ := readOut_recalls hm done s₁ hs₁
  generalize hread : (driver.readOut i (mapper (outputs params))).run s₁ = read at hresult hs₂
  obtain ⟨mapped, s₂⟩ := read
  have hclose : (driver.closeGuard ⟨i, .succeeded⟩).run s₂ =
      (.ok (), { s₂ with database := s₂.database.closeStatement i }) := rfl
  unfold Driver.invokeCall
  rw [run_bind_of_ok hrun, ← hresult]
  dsimp only
  rw [run_bind_of_ok (run_lift hread), run_bind_of_ok (run_lift hclose)]
  refine ⟨_, by cases mapped <;> rfl, ?_⟩
  exact ((recalls_unfetched.call (.closeStatement i) rfl).run s₂ hs₂).table

/-- The handler of a call stands by with the output values within its reach. -/
theorem executeCall_recalls (options : Options) (handler : Option (OutMapper τ))
    (h : s.database.called sql (inputs params) = (.ok done, table)) :
    ∃ i current s', (driver.executeCall sql params options handler).run s =
        (.ok ((ResultCursor.ofStatement i current).withHandler (outputs params) handler), s') ∧
      Recalls i (outputs params) done.out table s' := by
  obtain ⟨i, moved, s₁, hrun, hs₁⟩ := executeCallStatement_ok options h
  obtain ⟨current, s₂, hopen, hs₂⟩ := openCallRows_recalls moved hs₁
  have hrelease : (driver.releaseGuard ⟨i, .succeeded⟩).run s₁ = (.ok i, s₁) := rfl
  refine ⟨i, current, s₂, ?_, hs₂⟩
  unfold Driver.executeCall
  rw [run_bind_of_ok hrun]
  dsimp only
  rw [run_bind_of_ok hrelease, run_bind_of_ok hopen]
  rfl

/-- The procedure of a call sees the values that the parameters pass in, and what is asked about the
slots of those that take values out is answered with the values that the procedure brings out, and
never with a failure. That is so where they are read at once, and also for a handler that has its
turn at the end of a walk. -/
theorem call_outputs (s : Session Memory) (sql : String) (params : List Parameter)
    (options : Options) {mapper : OutMapper τ} (hm : mapper.BySlot) :
    match s.database.called sql (inputs params) with
    | (.error e, table) =>
      (∃ s', (driver.invokeCall sql params options mapper).run s = (.error e, s') ∧
        s'.database.table = table) ∧
      ∃ s', (driver.executeCall sql params options (some mapper)).run s = (.error e, s') ∧
        s'.database.table = table
    | (.ok done, table) =>
      let value := (Results.ofExecution done).outValue
      let result := (mapper (outputs params)).run.eval (OutSlot.told value)
      Answered params value ∧
      (∃ s', (driver.invokeCall sql params options mapper).run s = (result, s') ∧
        s'.database.table = table) ∧
      ∃ cursor s', (driver.executeCall sql params options (some mapper)).run s = (.ok cursor, s') ∧
        s'.database.table = table ∧ cursor.slots = outputs params ∧
        cursor.handler = .armed mapper ∧
        ∀ turns : List (Turn α),
          let walked := (driver.takeTurns cursor s' turns).1
          walked.2.slots = outputs params ∧
            (walked.2.handler = .armed mapper ∨ walked.2.handler = .fired result.toOption ∧
              ∀ e, result = .error e → .failed e ∈ walked.1) := by
  split
  · rename_i e table h
    obtain ⟨s', hrun, htable⟩ := executeCallStatement_error options h
    exact ⟨⟨s', run_bind_of_error hrun, htable⟩, s', run_bind_of_error hrun, htable⟩
  · rename_i done table h
    obtain ⟨i, current, s', hrun, hs⟩ := executeCall_recalls options (some mapper) h
    refine ⟨answered _ _, invokeCall_recalls hm options h, _, s', hrun, hs.table, rfl, rfl,
      fun turns => ?_⟩
    let cursor := (ResultCursor.ofStatement i current).withHandler (outputs params) (some mapper)
    have hattends : cursor.Attends i (outputs params) mapper
        ((mapper (outputs params)).run.eval (OutSlot.told (Results.ofExecution done).outValue)) :=
      ⟨.inr ((ResultCursor.on_ofStatement i current).withHandler _ _), rfl, .inl rfl⟩
    obtain ⟨hfailed, hattended, -⟩ :=
      recalls_unfetched.takeTurns (readOut_recalls hm done) turns hattends s' hs
    refine ⟨hattended.slots, ?_⟩
    rcases hattended.handler with harmed | hfired
    · exact .inl harmed
    · refine .inr ⟨hfired.1, fun e he => (hfailed rfl).resolve_left (fun harmed => ?_) e he⟩
      cases harmed.symm.trans hfired.1

/-- A value that is passed in first comes out third; nothing comes out first. -/
theorem call_outputs_of_three :
    let p : Procedure := fun table values => (.ok { out := [(3, values.headD .null)] }, table)
    let s : Session Memory := { database := ({} : Memory).define "CALL P(?, ?, ?)" p }
    let params : List Parameter :=
      [⟨"a", .inOut (.int 7) .integer⟩, .input (.text "x"), ⟨"b", .output .varChar⟩]
    OutMapper.BySlot OutSlot.values ∧
      ∃ s', (driver.invokeCall "CALL P(?, ?, ?)" params {} OutSlot.values).run s =
        (.ok [.null, .int 7], s') := by
  intro p s params
  have hm : OutMapper.BySlot OutSlot.values := fun _ => OutSlot.values_within
  have h := call_outputs (α := Unit) s "CALL P(?, ?, ?)" params {} hm
  have hcalled : s.database.called "CALL P(?, ?, ?)" (inputs params) =
      (.ok { out := [(3, .int 7)] }, {}) := rfl
  rw [hcalled] at h
  obtain ⟨-, ⟨s', hrun, -⟩, -⟩ := h
  exact ⟨hm, s', hrun⟩

end Memory

end SqlGateway.Database
