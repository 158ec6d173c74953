import SqlGateway.Proofs.Conduct.Transaction
import SqlGateway.Proofs.Custody.Execution

/-!
# Conduct of executions

An execution asks for what it was given, and once rows have one width it comes to no error but a
failed execution or an error of the caller's mapper.
-/

namespace SqlGateway

variable {σ τ α β : Type} {d : Driver σ} {r : Request} {P : Session σ → Prop}
  {E : Error → Session σ → Prop} {R : CursorId → Session σ → Prop}
  {V : StatementId → Session σ → Prop}

/-! ## Calls of an execution -/

namespace Upheld

variable (h : Upheld d (some r) P)
include h

theorem bindFrom {row : List Value} (hrow : row.map some ∈ r.rows) (i : StatementId) (k : Nat)
    {values : List Value} (hk : row.drop k = values) : Keeps P (d.bindFrom i (k + 1) values) := by
  induction values generalizing k with
  | nil => exact Keeps.pure
  | cons value values ih =>
      have hget : (row.map some)[k]? = some (some value) := by
        simpa [List.head?_drop] using congrArg List.head? hk
      refine Secures.bind (h.call _ ⟨r, rfl, _, hrow, k, rfl, hget⟩) fun _ => ih (k + 1) ?_
      rw [← List.tail_drop, hk, List.tail_cons]

theorem bindValues {row : List Value} (hrow : row.map some ∈ r.rows) (i : StatementId) :
    Keeps P (d.bindValues i row) :=
  h.bindFrom hrow i 0 rfl

theorem addRows {rows : List (List Value)} (hrows : ∀ row ∈ rows, row.map some ∈ r.rows)
    (i : StatementId) : Keeps P (d.addRows i rows) := by
  induction rows with
  | nil => exact Keeps.pure
  | cons row rows ih =>
      obtain ⟨hrow, hrows⟩ := List.forall_mem_cons.mp hrows
      refine Secures.bind (h.bindValues hrow i) fun _ => ?_
      exact Secures.bind (h.call (.addBatch i) trivial) fun _ => ih hrows

theorem executeRow (i : StatementId) (large : Bool) : Keeps P (d.executeRow i large) := by
  cases large with
  | true => exact h.call (.executeLargeUpdate i) trivial
  | false => exact Keeps.map (h.call (.executeUpdate i) trivial)

theorem countEach {rows : List (List Value)} (hrows : ∀ row ∈ rows, row.map some ∈ r.rows)
    (i : StatementId) (large : Bool) (total : UInt64) :
    Keeps P (d.countEach i large total rows) := by
  induction rows generalizing total with
  | nil => exact Keeps.pure
  | cons row rows ih =>
      obtain ⟨hrow, hrows⟩ := List.forall_mem_cons.mp hrows
      refine Secures.bind (h.bindValues hrow i) fun _ => ?_
      exact Secures.bind (h.executeRow i large) fun count => ih hrows _

theorem runRows {rows : List (List Value)} (hrows : ∀ row ∈ rows, row.map some ∈ r.rows)
    (i : StatementId) (large batch : Bool) : Keeps P (d.runRows i rows large batch) := by
  cases batch with
  | true =>
      refine Secures.bind (h.addRows hrows i) fun _ => ?_
      exact Secures.bind (h.call (.executeLargeBatch i) trivial) fun _ => Keeps.pure
  | false => exact h.countEach hrows i large 0

theorem executeRows {values : List Value} (hrow : values.map some ∈ r.rows) (i : StatementId) :
    Keeps P (d.executeRows i values) := by
  refine Secures.bind (h.bindValues hrow i) fun _ => ?_
  refine Secures.bind (h.call (.execute i) trivial) fun hasRows => ?_
  cases hasRows with
  | true => exact h.openCursor i
  | false => exact Keeps.pure

theorem bindParametersFrom {params : List Parameter} (hrow : params.map Parameter.value? ∈ r.rows)
    (i : StatementId) (k : Nat) {rest : List Parameter} (hk : params.drop k = rest) :
    Keeps P (d.bindParametersFrom i (k + 1) rest) := by
  induction rest generalizing k with
  | nil => exact Keeps.pure
  | cons param rest ih =>
      have hget : params[k]? = some param := by
        simpa [List.head?_drop] using congrArg List.head? hk
      have bound : Keeps P (d.bindParameter i (k + 1) param) := by
        rw [Driver.bindParameter_eq]
        refine Secures.bind ?_ fun _ => Keeps.forM (fun type => h.call (.registerOut ..) trivial) _
        cases hvalue : param.value? with
        | none => exact Keeps.pure
        | some value =>
            exact h.call _ ⟨r, rfl, _, hrow, k, rfl, by simp [hget, hvalue]⟩
      refine Secures.bind bound fun _ => ?_
      refine Secures.bind (ih (k + 1) (by rw [← List.tail_drop, hk, List.tail_cons]))
        fun slots => ?_
      split <;> exact Keeps.pure

end Upheld

namespace Conduct

variable (h : Conduct d (some r) P E R V)
include h

/-! ## Statements -/

theorem tolerating (setting : String) {act : Act σ Failure Unit} (hact : Keeps P act) :
    Meets P (SqlGateway.tolerating setting act) (fun _ => P) E := by
  refine Meets.lift_run (Meets.of_secures hact fun _ _ hs => hs)
    (fun _ => Meets.pure fun _ hs => hs) fun f => ?_
  dsimp only
  split
  · exact Meets.lift (h.going.debug _)
  · exact Meets.throw (h.ofFailure f)

theorem applyOptions (i : StatementId) (options : Options) :
    Meets P (d.applyOptions i options) (fun _ => P) E := by
  rw [Driver.applyOptions_eq]
  refine Meets.bind (Meets.forM (fun timeout => ?timeout) _) fun _ => ?_
  case timeout => exact h.tolerating _ (h.going.call (.setTimeout i timeout) trivial)
  refine Meets.bind (h.tolerating _ (h.going.call (.setPoolable i _) trivial)) fun _ => ?_
  refine Meets.bind (h.tolerating _ (h.going.call (.setEscapeProcessing i _) trivial)) fun _ => ?_
  refine Meets.bind (Meets.forM (fun rows => ?fetchSize) _) fun _ => ?_
  case fetchSize => exact h.tolerating _ (h.going.call (.setFetchSize i rows) trivial)
  exact Meets.forM (fun rows => h.tolerating _ (h.going.call (.setMaxRows i rows) trivial)) _

theorem dropOnError {guard : StatementGuard} {act : Act σ Error α} {P' : Session σ → Prop}
    {Q : α → Session σ → Prop} (hact : Meets P' act Q E) :
    Meets P' (d.dropOnError guard act) Q E := by
  refine Meets.lift_run hact (fun a => Meets.pure fun _ hs => hs) fun e => ?_
  have hdrop := (h.failed e).closeStatementWarned guard.statement "Failed to close statement"
  exact Meets.bind (Meets.lift hdrop) fun _ => Meets.throw fun _ hs => hs

theorem guardStatement {keys : GeneratedKeys} (hkeys : keys.isRequested = r.keyed) :
    Meets P (d.guardStatement r.sql r.kind keys)
      (fun guard s => guard.phase = .prepared ∧ P s) E := by
  refine Meets.bind (Meets.lift (h.going.ask .isClosed)) fun closed => ?_
  cases closed with
  | true => exact Meets.throw (h.execution _)
  | false =>
      have hprepare : Keeps P (d.prepare r.sql r.kind keys) :=
        h.going.prepare fun _ => ⟨r, rfl, rfl, rfl, hkeys⟩
      exact Meets.bind (h.surfaced hprepare) fun i => Meets.pure fun _ hs => ⟨rfl, hs⟩

theorem runStatement {keys : GeneratedKeys} {configure : StatementId → Act σ Error Unit}
    {action : StatementId → Act σ Error α} {Q : StatementId → Session σ → Prop}
    (hkeys : keys.isRequested = r.keyed)
    (hconfigure : ∀ i, Meets P (configure i) (fun _ => P) E)
    (haction : ∀ i, Meets P (action i) (fun _ => Q i) E) :
    Meets P (d.runStatement r.sql r.kind keys configure action)
      (fun result s => result.2.phase = .succeeded ∧ Q result.2.statement s) E := by
  refine Meets.bind (h.guardStatement hkeys) fun guard => ?_
  refine Meets.assuming fun hp => ?_
  obtain ⟨i, phase⟩ := guard
  obtain rfl : phase = .prepared := hp
  refine Meets.bind (h.dropOnError (hconfigure i)) fun _ => ?_
  -- the guard that the execution leaves says how it went
  have run : Triple P (StatementGuard.run ⟨i, .prepared⟩ action) fun result =>
      Ended (fun _ s => result.2.phase = .succeeded ∧ Q result.2.statement s) E result.1 := by
    refine Triple.bind (haction i) fun outcome => ?_
    cases outcome with
    | ok a => exact fun _ hs => ⟨rfl, hs⟩
    | error e => exact fun _ hs => hs
  refine Meets.bind (Meets.lift run) fun result => ?_
  obtain ⟨outcome, guard⟩ := result
  refine Meets.bind (h.dropOnError
    (Q := fun _ s => guard.phase = .succeeded ∧ Q guard.statement s) ?_) fun a =>
      Meets.pure fun _ hs => hs
  cases outcome with
  | ok a => exact Meets.pure fun _ hs => hs
  | error e => exact Meets.throw fun _ hs => hs

/-! ## Keys -/

theorem keyRow (k : CursorId) (row : Option Row) : Keeps (R k) (d.keyRow k row) := by
  cases row with
  | some row => exact Keeps.pure
  | none => exact Secures.bind (h.described k) fun columns => Keeps.pure

theorem drainRows {mapper : RowMapper α} (hmapper : Minds d P E R mapper) (k : CursorId)
    (row : Option Row) : Triple P (d.drainRows mapper k row) (Ended (fun _ => P) E) := by
  intro s hs
  have next := h.reached k
  fun_induction d.drainRows mapper k row s with
  | case1 row s f s' hn => exact h.ofFailure f s' (Triple.of_run next hs hn)
  | case2 row s s' hn => exact (Triple.of_run next hs hn).1
  | case3 row s s' hn f s'' hr =>
      have hs := (h.keyRow k row).run.of_run ((Triple.of_run next hs hn).2 rfl) hr
      exact h.ofFailure f s'' (h.going_of_reached k s'' hs)
  | case4 row s s' hn row' s'' hr e s''' hm =>
      have hs := (h.keyRow k row).run.of_run ((Triple.of_run next hs hn).2 rfl) hr
      exact (hmapper k row').of_run hs hm
  | case5 row s s' hn row' s'' hr a s''' hm rest s4 hrest ih =>
      have hs := (h.keyRow k row).run.of_run ((Triple.of_run next hs hn).2 rfl) hr
      have hs := ih ((hmapper k row').of_run hs hm)
      rw [hrest] at hs
      cases rest <;> exact hs

theorem drain {mapper : RowMapper α} (hmapper : Minds d P E R mapper) (k : CursorId) :
    Meets P (d.drain mapper k) (fun _ => P) E := by
  have rows : Meets P (ExceptT.mk (d.drainRows mapper k none) : Act σ Error (List α))
      (fun _ => P) E := h.drainRows hmapper k none
  exact Meets.both (f := id) rows (h.perform (c := .closeCursor k) trivial) (h.late trivial)
    fun _ _ hs => hs

theorem readKeys {mapper : RowMapper α} (hmapper : Minds d P E R mapper) (i : StatementId) :
    Meets P (d.readKeys i mapper) (fun _ => P) E :=
  Meets.bind (h.surfaced (h.going.openKeys i)) fun k => h.drain hmapper k

theorem keysEach {rows : List (List Value)} (hrows : ∀ row ∈ rows, row.map some ∈ r.rows)
    {mapper : RowMapper α} (hmapper : Minds d P E R mapper) (i : StatementId) (large : Bool) :
    Meets P (d.keysEach i large mapper rows) (fun _ => P) E := by
  induction rows with
  | nil => exact Meets.pure fun _ hs => hs
  | cons row rows ih =>
      obtain ⟨hrow, hrows⟩ := List.forall_mem_cons.mp hrows
      refine Meets.bind (h.surfaced (h.going.bindValues hrow i)) fun _ => ?_
      refine Meets.bind (Q := fun _ => P)
        (Meets.map (h.surfaced (h.going.executeRow i large)) fun _ _ hs => hs) fun _ => ?_
      refine Meets.bind (h.readKeys hmapper i) fun keys => ?_
      exact Meets.bind (ih hrows) fun rest => Meets.pure fun _ hs => hs

theorem runKeys {rows : List (List Value)} (hrows : ∀ row ∈ rows, row.map some ∈ r.rows)
    {mapper : RowMapper α} (hmapper : Minds d P E R mapper) (i : StatementId) (large batch : Bool) :
    Meets P (d.runKeys i rows large batch mapper) (fun _ => P) E := by
  cases batch with
  | true =>
      refine Meets.bind (h.surfaced (h.going.addRows hrows i)) fun _ => ?_
      refine Meets.bind (Q := fun _ => P)
        (Meets.map (h.perform (c := .executeLargeBatch i) trivial) fun _ _ hs => hs) fun _ => ?_
      exact h.readKeys hmapper i
  | false => exact h.keysEach hrows hmapper i large

/-! ## Updates -/

theorem useBatch (rows : List (List Value)) (options : Options) :
    Triple P (d.useBatch rows options) fun _ => P :=
  Driver.useBatch_triple (h.going.ask .supportsBatch)

theorem runUpdate {keys : GeneratedKeys} {rows : List (List Value)} {options : Options}
    {action : StatementId → Bool → Act σ Error α} (hkind : r.kind = .dml)
    (hkeys : keys.isRequested = r.keyed)
    (haction : ∀ i batch, Meets P (action i batch) (fun _ => P) E) :
    Meets P (d.runUpdate r.sql keys rows options action) (fun _ => P) E := by
  unfold Driver.runUpdate
  rw [← hkind]
  refine Meets.bind (h.runStatement hkeys (fun i => h.applyOptions i options) fun i =>
    Meets.bind (Meets.lift (h.useBatch rows options)) (haction i)) fun result => ?_
  refine Meets.assuming fun _ => ?_
  exact Meets.bind (h.perform (c := .closeStatement _) trivial) fun _ => Meets.pure fun _ hs => hs

theorem abiding : Abiding d P E where
  ask p := h.going.ask p
  call c hc := h.failing (h.going.call c (Call.serves_of_isTransactional hc))
  late e c hc := (h.failed e).call c (Call.serves_of_isTransactional hc)
  log e := (h.failed e).log

theorem transacted {act : Act σ Error α} (hact : Meets P act (fun _ => P) E)
    (rows : List (List Value)) (options : Options) :
    Meets P (d.transacted rows options act) (fun _ => P) E := by
  unfold Driver.transacted
  split
  · exact h.abiding.inTransaction hact options.isolation
  · exact hact

omit h in
/-- The widths of the rows are compared once more before anything is done. -/
theorem checked {rows : List (List Value)} (hwidth : checkArity rows = .ok ())
    {skip act : Act σ Error α} (hskip : Meets P skip (fun _ => P) E)
    (hact : Meets P act (fun _ => P) E) :
    Meets P (do
      MonadExcept.ofExcept (checkArity rows)
      if rows.isEmpty then skip else act) (fun _ => P) E := by
  rw [hwidth]
  refine Meets.bind (Q := fun _ => P) (Meets.pure fun _ hs => hs) fun _ => ?_
  split
  · exact hskip
  · exact hact

theorem executeUpdate {rows : List (List Value)} (hrows : ∀ row ∈ rows, row.map some ∈ r.rows)
    (hwidth : checkArity rows = .ok ()) (hkind : r.kind = .dml) (hkeyed : r.keyed = false)
    (options : Options) : Meets P (d.executeUpdate r.sql rows options) (fun _ => P) E := by
  refine Conduct.checked hwidth ?_ ?_
  · exact Meets.bind (Meets.lift (h.going.debug _)) fun _ => Meets.pure fun _ hs => hs
  · refine Meets.bind (Meets.lift (h.going.debug _)) fun _ => ?_
    have hkeys : GeneratedKeys.none.isRequested = r.keyed := hkeyed.symm
    refine h.transacted (h.runUpdate hkind hkeys fun i batch => ?_) rows options
    exact h.surfaced (h.going.runRows hrows i options.large batch)

theorem executeUpdateWithKeys {rows : List (List Value)}
    (hrows : ∀ row ∈ rows, row.map some ∈ r.rows) (hwidth : checkArity rows = .ok ())
    (hkind : r.kind = .dml) (hkeyed : r.keyed = true) (options : Options) (keys : GeneratedKeys)
    {mapper : RowMapper α} (hmapper : Minds d P E R mapper) (aggregate : List α → β) :
    Meets P (d.executeUpdateWithKeys r.sql rows options keys mapper aggregate) (fun _ => P) E := by
  refine Conduct.checked hwidth ?_ ?_
  · exact Meets.bind (Meets.lift (h.going.debug _)) fun _ => Meets.pure fun _ hs => hs
  · refine Meets.bind (Meets.lift (h.going.debug _)) fun _ => ?_
    have hkeys : (if keys.isRequested then keys else .all).isRequested = r.keyed := by
      rw [hkeyed]
      split
      · assumption
      · rfl
    refine Meets.bind (h.transacted (h.runUpdate hkind hkeys fun i batch => ?_) rows options)
      fun collected => Meets.pure fun _ hs => hs
    exact h.runKeys hrows hmapper i options.large batch

/-! ## Queries and calls -/

omit h in
/-- Where a statement that has succeeded is handed on. -/
theorem releaseGuard {guard : StatementGuard} (hp : guard.phase = .succeeded) :
    Meets P (d.releaseGuard guard) (fun _ => P) E :=
  Meets.of_secures (F := fun _ => False)
    (Secures.weaken (Driver.releaseGuard_secures guard hp) (fun _ _ hs => hs.2) fun _ hs => hs)
    fun _ _ hs => hs.elim

theorem executeQuery {values : List Value} (hrow : values.map some ∈ r.rows)
    (hkind : r.kind = .select) (hkeyed : r.keyed = false) (options : Options) :
    Meets P (d.executeQuery r.sql values options : Act σ Error (ResultCursor τ))
      (fun cursor s => cursor.handler = .unarmed ∧ P s) E := by
  unfold Driver.executeQuery
  rw [← hkind]
  refine Meets.bind (Meets.lift (h.going.debug _)) fun _ => ?_
  have hkeys : GeneratedKeys.none.isRequested = r.keyed := hkeyed.symm
  refine Meets.bind (h.runStatement hkeys (fun i => h.applyOptions i options)
    fun i => h.surfaced (h.going.executeRows hrow i)) fun result => ?_
  refine Meets.assuming fun hp => ?_
  exact Meets.bind (Conduct.releaseGuard hp) fun i => Meets.pure fun _ hs => ⟨rfl, hs⟩

theorem executeCallStatement {params : List Parameter} (hrow : params.map Parameter.value? ∈ r.rows)
    (hkind : r.kind = .procedureCall) (hkeyed : r.keyed = false) (options : Options) :
    Meets P (d.executeCallStatement r.sql params options)
      (fun result s => result.2.phase = .succeeded ∧ V result.2.statement s) E := by
  unfold Driver.executeCallStatement
  rw [← hkind]
  refine Meets.bind (Meets.lift (h.going.debug _)) fun _ => ?_
  have hkeys : GeneratedKeys.none.isRequested = r.keyed := hkeyed.symm
  refine h.runStatement hkeys (fun i => h.applyOptions i options) fun i => ?_
  refine h.surfaced (Secures.bind (h.going.bindParametersFrom hrow i 0 rfl) fun slots => ?_)
  exact Secures.bind (h.executed i) fun _ => Secures.pure fun _ hs => hs

theorem openCallRows (i : StatementId) (hasRows : Bool) :
    Meets P (d.openCallRows i hasRows) (fun _ => P) E := by
  unfold Driver.openCallRows
  split
  · refine Meets.lift_run (h.failing (h.going.openCursor i)) (fun current => ?_) fun f => ?_
    · exact Meets.pure fun _ hs => hs
    · exact Meets.bind (Meets.lift ((h.failed _).closeStatementWarned i _)) fun _ =>
        Meets.throw fun _ hs => hs
  · exact Meets.pure fun _ hs => hs

theorem executeCall {params : List Parameter} (hrow : params.map Parameter.value? ∈ r.rows)
    (hkind : r.kind = .procedureCall) (hkeyed : r.keyed = false) (options : Options)
    (handler : Option (OutMapper τ)) :
    Meets P (d.executeCall r.sql params options handler)
      (fun cursor s => (∀ mapper, cursor.handler = .armed mapper → handler = some mapper) ∧ P s)
      E := by
  refine Meets.bind (h.executeCallStatement hrow hkind hkeyed options) fun result => ?_
  refine Meets.assuming fun hp => ?_
  refine Meets.strengthen (P := P) ?_ (h.going_of_executed result.2.statement)
  refine Meets.bind (Conduct.releaseGuard hp) fun i => ?_
  refine Meets.bind (h.openCallRows i result.1.2) fun current => Meets.pure fun s hs => ⟨?_, hs⟩
  intro mapper harmed
  cases handler with
  | none => cases harmed
  | some mapper' =>
      cases harmed
      rfl

theorem invokeCall {params : List Parameter} (hrow : params.map Parameter.value? ∈ r.rows)
    (hkind : r.kind = .procedureCall) (hkeyed : r.keyed = false) (options : Options)
    {mapper : OutMapper α} (hmapper : MindsOut d P E V mapper) :
    Meets P (d.invokeCall r.sql params options mapper) (fun _ => P) E := by
  refine Meets.bind (h.executeCallStatement hrow hkind hkeyed options) fun result => ?_
  refine Meets.assuming fun _ => ?_
  obtain ⟨⟨slots, hasRows⟩, guard⟩ := result
  exact Meets.both (f := id) (hmapper guard.statement slots)
    (h.perform (c := .closeStatement guard.statement) trivial) (h.late trivial)
    fun _ _ hs => hs

end Conduct

end SqlGateway
