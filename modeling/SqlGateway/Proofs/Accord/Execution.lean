import SqlGateway.Proofs.Accord.Basic
import SqlGateway.Proofs.Act.Run
import SqlGateway.Proofs.Custody.Execution

/-!
# Executions in accord

Every act that an execution is made of leads from phase to phase side by side, and so does the
execution.
-/

namespace SqlGateway

variable {σ σ' τ α β : Type} {d : Driver σ} {d' : Driver σ'} {v : Phases σ σ'}

/-- Looks for a row and goes on from there. -/
theorem Driver.drainRows_step (d : Driver σ) (mapper : RowMapper α) (c : CursorId)
    (row : Option Row) :
    (ExceptT.mk (d.drainRows mapper c row) : Act σ Error (List α)) = (do
      if ← surfaced (d.perform (.next c)) then
        let row ← surfaced (d.keyRow c row)
        let a ← d.readRow c (mapper row)
        let rest ← ExceptT.mk (d.drainRows mapper c (some row))
        return a :: rest
      else return []) := by
  funext s
  change d.drainRows mapper c row s = ExceptT.run (surfaced (d.perform (.next c)) >>= _) s
  rw [Driver.drainRows]
  split
  · rename_i hn
    rw [run_bind_of_error (surfaced_run hn)]
  · rename_i hn
    rw [run_bind_of_ok (surfaced_run hn)]
    rfl
  · rename_i hn
    rw [run_bind_of_ok (surfaced_run hn), if_pos rfl]
    split
    · rename_i hr
      rw [run_bind_of_error (surfaced_run hr)]
    · rename_i row s₂ hr
      rw [run_bind_of_ok (surfaced_run hr)]
      split
      · rename_i hm
        rw [run_bind_of_error hm]
      · rename_i hm
        rw [run_bind_of_ok hm]
        rw [← map_eq_pure_bind, run_map]
        rfl

namespace Accord

variable (h : Accord d d' v)
include h

/-! ## Calls on a statement -/

theorem bindFrom (i : StatementId) (position : Nat) (values : List Value) :
    Concur v.going (d.bindFrom i position values) (d'.bindFrom i position values) (fun _ => v.going)
      v.failing := by
  induction values generalizing position with
  | nil => exact Concur.pure fun _ _ hs => hs
  | cons value values ih =>
      exact Concur.bind (h.call (.bind i position value) rfl rfl) fun _ => ih (position + 1)

theorem addRows (i : StatementId) (rows : List (List Value)) :
    Concur v.going (d.addRows i rows) (d'.addRows i rows) (fun _ => v.going) v.failing := by
  induction rows with
  | nil => exact Concur.pure fun _ _ hs => hs
  | cons row rows ih =>
      refine Concur.bind (h.bindFrom i 1 row) fun _ => ?_
      exact Concur.bind (h.call (.addBatch i) rfl rfl) fun _ => ih

theorem executeRow (i : StatementId) (large : Bool) :
    Concur v.going (d.executeRow i large) (d'.executeRow i large) (fun _ => v.going) v.failing := by
  cases large with
  | true => exact h.call (.executeLargeUpdate i) rfl rfl
  | false => exact Concur.map (h.call (.executeUpdate i) rfl rfl) fun _ _ _ hs => hs

theorem countEach (i : StatementId) (large : Bool) (total : UInt64) (rows : List (List Value)) :
    Concur v.going (d.countEach i large total rows) (d'.countEach i large total rows)
      (fun _ => v.going) v.failing := by
  induction rows generalizing total with
  | nil => exact Concur.pure fun _ _ hs => hs
  | cons row rows ih =>
      refine Concur.bind (h.bindFrom i 1 row) fun _ => ?_
      exact Concur.bind (h.executeRow i large) fun count => ih _

theorem runRows (i : StatementId) (rows : List (List Value)) (large batch : Bool) :
    Concur v.going (d.runRows i rows large batch) (d'.runRows i rows large batch) (fun _ => v.going)
      v.failing := by
  cases batch with
  | true =>
      refine Concur.bind (h.addRows i rows) fun _ => ?_
      exact Concur.bind (h.call (.executeLargeBatch i) rfl rfl) fun _ =>
        Concur.pure fun _ _ hs => hs
  | false => exact h.countEach i large 0 rows

/-! ## Generated keys -/

theorem keyRow (c : CursorId) (row : Option Row) :
    Concur v.going (d.keyRow c row) (d'.keyRow c row) (fun _ => v.going) v.failing := by
  cases row with
  | some row => exact Concur.pure fun _ _ hs => hs
  | none => exact Concur.bind (h.call (.columns c) rfl rfl) fun _ => Concur.pure fun _ _ hs => hs

theorem drainRows {mapper : RowMapper α} (hmapper : v.Maps d d' mapper) (c : CursorId)
    (row : Option Row) :
    Concur v.going (ExceptT.mk (d.drainRows mapper c row) : Act σ Error (List α))
      (ExceptT.mk (d'.drainRows mapper c row)) (fun _ => v.going) v.failing := by
  intro s s' hs
  have next := (h.call (.next c) rfl rfl).surfaced
  rw [Driver.drainRows_step d']
  change Likewise (d.drainRows mapper c row s).1 _ ∧
    Ends _ _ (d.drainRows mapper c row s).1 (d.drainRows mapper c row s).2 _
  fun_induction d.drainRows mapper c row s generalizing s' with
  | case1 row s f s₁ hn =>
      obtain ⟨e, s₁', hn', he, hs⟩ := next.of_error hs (surfaced_run hn)
      rw [run_bind_of_error hn']
      exact ⟨he, hs⟩
  | case2 row s s₁ hn =>
      obtain ⟨s₁', hn', hs⟩ := next.of_ok hs (surfaced_run hn)
      rw [run_bind_of_ok hn']
      exact ⟨rfl, hs⟩
  | case3 row s s₁ hn f s₂ hr =>
      obtain ⟨s₁', hn', hs⟩ := next.of_ok hs (surfaced_run hn)
      obtain ⟨e, s₂', hr', he, hs⟩ := (h.keyRow c row).surfaced.of_error hs (surfaced_run hr)
      rw [run_bind_of_ok hn', if_pos rfl, run_bind_of_error hr']
      exact ⟨he, hs⟩
  | case4 row s s₁ hn row' s₂ hr e s₃ hm =>
      obtain ⟨s₁', hn', hs⟩ := next.of_ok hs (surfaced_run hn)
      obtain ⟨s₂', hr', hs⟩ := (h.keyRow c row).surfaced.of_ok hs (surfaced_run hr)
      obtain ⟨e', s₃', hm', he, hs⟩ := (hmapper c row').of_error hs hm
      rw [run_bind_of_ok hn', if_pos rfl, run_bind_of_ok hr', run_bind_of_error hm']
      exact ⟨he, hs⟩
  | case5 row s s₁ hn row' s₂ hr a s₃ hm rest s₄ hrest ih =>
      obtain ⟨s₁', hn', hs⟩ := next.of_ok hs (surfaced_run hn)
      obtain ⟨s₂', hr', hs⟩ := (h.keyRow c row).surfaced.of_ok hs (surfaced_run hr)
      obtain ⟨s₃', hm', hs⟩ := (hmapper c row').of_ok hs hm
      rw [run_bind_of_ok hn', if_pos rfl, run_bind_of_ok hr', run_bind_of_ok hm']
      have hrest' := ih s₃' hs
      rw [← Driver.drainRows_step, hrest] at hrest'
      rw [← map_eq_pure_bind, run_map]
      generalize (ExceptT.mk (d'.drainRows mapper c (some row')) : Act σ' Error (List α)).run s₃' =
        result at hrest' ⊢
      obtain ⟨hlike, hs⟩ := hrest'
      obtain ⟨rest', s₄'⟩ := result
      cases rest <;> cases rest'
      · exact ⟨hlike, hs⟩
      · exact hlike.elim
      · exact hlike.elim
      · exact ⟨congrArg (a :: ·) hlike, hs⟩

theorem drain {mapper : RowMapper α} (hmapper : v.Maps d d' mapper) (c : CursorId) :
    Concur v.going (d.drain mapper c) (d'.drain mapper c) (fun _ => v.going) v.failing :=
  Concur.both (f := id) (h.drainRows hmapper c none) (h.call (.closeCursor c) rfl rfl).surfaced
    fun e => Abreast.surfaced (h.late (.closeCursor c) e rfl rfl)

theorem readKeys {mapper : RowMapper α} (hmapper : v.Maps d d' mapper) (i : StatementId) :
    Concur v.going (d.readKeys i mapper) (d'.readKeys i mapper) (fun _ => v.going) v.failing :=
  Concur.bind (h.openKeys i).surfaced fun c => h.drain hmapper c

theorem keysEach {mapper : RowMapper α} (hmapper : v.Maps d d' mapper) (i : StatementId)
    (large : Bool) (rows : List (List Value)) :
    Concur v.going (d.keysEach i large mapper rows) (d'.keysEach i large mapper rows)
      (fun _ => v.going) v.failing := by
  induction rows with
  | nil => exact Concur.pure fun _ _ hs => hs
  | cons row rows ih =>
      refine Concur.bind (h.bindFrom i 1 row).surfaced fun _ => ?_
      refine Concur.bind (Concur.discarded (h.executeRow i large)) fun _ => ?_
      refine Concur.bind (h.readKeys hmapper i) fun keys => ?_
      exact Concur.bind ih fun rest => Concur.pure fun _ _ hs => hs

theorem runKeys {mapper : RowMapper α} (hmapper : v.Maps d d' mapper) (i : StatementId)
    (rows : List (List Value)) (large batch : Bool) :
    Concur v.going (d.runKeys i rows large batch mapper) (d'.runKeys i rows large batch mapper)
      (fun _ => v.going) v.failing := by
  cases batch with
  | true =>
      refine Concur.bind (h.addRows i rows).surfaced fun _ => ?_
      refine Concur.bind (Concur.discarded (h.call (.executeLargeBatch i) rfl rfl)) fun _ => ?_
      exact h.readKeys hmapper i
  | false => exact h.keysEach hmapper i large rows

/-! ## Statements -/

theorem applyOptions (i : StatementId) (options : Options) :
    Concur (v.fresh i) (d.applyOptions i options) (d'.applyOptions i options) (fun _ => v.fresh i)
      (v.refused i) := by
  rw [Driver.applyOptions_eq, Driver.applyOptions_eq]
  have log := h.log_fresh i
  refine Concur.bind (Concur.forM (fun timeout => ?timeout) _) fun _ => ?_
  case timeout => exact Concur.tolerating log (h.option (.setTimeout i timeout) i rfl rfl) _
  refine Concur.bind (Concur.tolerating log (h.option (.setPoolable i _) i rfl rfl) _) fun _ => ?_
  refine Concur.bind
    (Concur.tolerating log (h.option (.setEscapeProcessing i _) i rfl rfl) _) fun _ => ?_
  refine Concur.bind (Concur.forM (fun rows => ?fetchSize) _) fun _ => ?_
  case fetchSize => exact Concur.tolerating log (h.option (.setFetchSize i rows) i rfl rfl) _
  exact Concur.forM
    (fun rows => Concur.tolerating log (h.option (.setMaxRows i rows) i rfl rfl) _) _

omit h in
theorem dropOnError {P : Session σ → Session σ' → Prop} {Q : α → Session σ → Session σ' → Prop}
    {E F : Error → Session σ → Session σ' → Prop} {act : Act σ Error α} {act' : Act σ' Error α}
    {guard : StatementGuard} (hact : Concur P act act' Q F)
    (hdrop : ∀ e, Abreast (F e) (d.dropGuard guard) (d'.dropGuard guard) fun _ _ => E e) :
    Concur P (d.dropOnError guard act) (d'.dropOnError guard act') Q E := by
  refine Concur.lift_run hact (fun a => Concur.pure fun _ _ hs => hs) fun e e' he => ?_
  exact Abreast.bind (hdrop e) fun _ _ => Abreast.pure fun s s' hs => ⟨he, hs⟩

theorem guardStatement (sql : String) (kind : StatementKind) (keys : GeneratedKeys) :
    Concur v.going (d.guardStatement sql kind keys) (d'.guardStatement sql kind keys)
      (fun guard s s' => guard.phase = .prepared ∧ v.fresh guard.statement s s') v.failed := by
  refine Concur.bind (Concur.lift h.isClosed) fun closed => ?_
  cases closed with
  | true => exact Concur.throw fun _ _ hs => hs
  | false =>
      refine Concur.bind (Q := v.fresh) ?_ fun i => Concur.pure fun _ _ hs => ⟨rfl, hs⟩
      exact Concur.weaken (h.openStatement sql kind keys).surfaced (fun _ _ _ hs => hs)
        h.failed_of_failing

/-- An execution is in accord if what is done with the statement is. -/
theorem runStatement {sql : String} {kind : StatementKind} {keys : GeneratedKeys}
    {options : Options} {action : StatementId → Act σ Error α}
    {action' : StatementId → Act σ' Error α}
    (haction : ∀ i, Concur v.going (action i) (action' i) (fun _ => v.going) v.failing) :
    Concur v.going (d.runStatement sql kind keys (d.applyOptions · options) action)
      (d'.runStatement sql kind keys (d'.applyOptions · options) action')
      (fun r s s' => r.2.phase = .succeeded ∧ v.going s s') v.failed := by
  refine Concur.bind (h.guardStatement sql kind keys) fun guard => ?_
  obtain ⟨i, phase⟩ := guard
  refine Concur.assuming fun hp => ?_
  obtain rfl : phase = .prepared := hp
  refine Concur.bind (dropOnError (h.applyOptions i options) fun e => ?refused) fun _ => ?_
  case refused =>
    exact Abreast.weaken (Abreast.orWarn (h.log_failed e) (h.closeRefused i e) _)
      fun _ _ _ _ hs => hs.2
  refine Concur.strengthen ?_ (h.going_of_fresh i)
  -- the guard that the execution leaves says how it went
  have run : Abreast v.going (StatementGuard.run ⟨i, .prepared⟩ action)
      (StatementGuard.run ⟨i, .prepared⟩ action')
      (Same fun r => Ends (fun _ s s' => r.2.phase = .succeeded ∧ v.going s s') v.failing r.1) := by
    refine Concur.run_bind (haction i) (fun a => ?_) fun e e' he => ?_
    · exact Abreast.same fun _ _ hs => ⟨rfl, hs⟩
    · obtain rfl : e = e' := he
      exact Abreast.same fun _ _ hs => hs
  refine Concur.bind (Concur.lift run) fun r => ?_
  obtain ⟨outcome, guard⟩ := r
  refine Concur.bind (dropOnError (F := v.failing)
    (Q := fun _ s s' => guard.phase = .succeeded ∧ v.going s s') ?_ fun e => ?_) fun a =>
      Concur.pure fun _ _ hs => hs
  · cases outcome with
    | ok a => exact Concur.pure fun _ _ hs => hs
    | error e => exact Concur.throw fun _ _ hs => hs
  · exact Abreast.weaken (h.closeStatementWarned e guard.statement _)
      fun _ _ s s' hs => h.failed_of_failing e s s' hs.2

/-! ## Updates -/

theorem useBatch (rows : List (List Value)) (options : Options) :
    Abreast v.going (d.useBatch rows options) (d'.useBatch rows options)
      (Same fun _ => v.going) := by
  unfold Driver.useBatch
  split
  · exact h.ask .supportsBatch nofun
  · exact Abreast.same fun _ _ hs => hs

theorem runUpdate {sql : String} {keys : GeneratedKeys} {rows : List (List Value)}
    {options : Options} {action : StatementId → Bool → Act σ Error α}
    {action' : StatementId → Bool → Act σ' Error α}
    (haction : ∀ i batch,
      Concur v.going (action i batch) (action' i batch) (fun _ => v.going) v.failing) :
    Concur v.going (d.runUpdate sql keys rows options action)
      (d'.runUpdate sql keys rows options action') (fun _ => v.going) v.failed := by
  refine Concur.bind (h.runStatement fun i => ?_) fun r => ?_
  · exact Concur.bind (Concur.lift (h.useBatch rows options)) (haction i)
  · refine Concur.assuming fun _ => Concur.bind (Q := fun _ => v.going) ?_ fun _ =>
      Concur.pure fun _ _ hs => hs
    exact h.perform (.closeStatement r.2.statement) rfl rfl

/-! ## Queries and calls -/

theorem executeRows (i : StatementId) (values : List Value) :
    Concur v.going (d.executeRows i values) (d'.executeRows i values) (fun _ => v.going)
      v.failing := by
  refine Concur.bind (h.bindFrom i 1 values) fun _ => ?_
  refine Concur.bind (h.call (.execute i) rfl rfl) fun hasRows => ?_
  cases hasRows with
  | true => exact h.openCursor i
  | false => exact Concur.pure fun _ _ hs => hs

omit h in
/-- Where a statement that has succeeded is handed on. -/
theorem releaseGuard {guard : StatementGuard} (hp : guard.phase = .succeeded) :
    Concur v.going (d.releaseGuard guard) (d'.releaseGuard guard) (fun _ => v.going) v.failed := by
  unfold Driver.releaseGuard
  rw [if_pos hp, if_pos hp]
  exact Concur.pure fun _ _ hs => hs

theorem executeQuery (sql : String) (values : List Value) (options : Options) :
    Concur v.going (d.executeQuery sql values options : Act σ Error (ResultCursor τ))
      (d'.executeQuery sql values options)
      (fun cursor s s' => cursor.handler = .unarmed ∧ cursor.Sound ∧ v.going s s')
      v.failed := by
  refine Concur.bind (Concur.lift (h.log_going.debug _)) fun _ => ?_
  refine Concur.bind (h.runStatement fun i => (h.executeRows i values).surfaced) fun r => ?_
  obtain ⟨current, guard⟩ := r
  refine Concur.assuming fun hp => ?_
  exact Concur.bind (releaseGuard hp) fun i => Concur.pure fun _ _ hs =>
    ⟨rfl, (ResultCursor.on_ofStatement i current).sound, hs⟩

theorem bindParametersFrom (i : StatementId) (position : Nat) (params : List Parameter) :
    Concur v.going (d.bindParametersFrom i position params)
      (d'.bindParametersFrom i position params)
      (fun _ => v.going) v.failing := by
  induction params generalizing position with
  | nil => exact Concur.pure fun _ _ hs => hs
  | cons param params ih =>
      refine Concur.bind (Q := fun _ => v.going) ?_ fun _ => ?_
      · rw [Driver.bindParameter_eq, Driver.bindParameter_eq]
        exact Concur.bind (Concur.forM (fun value => h.call (.bind ..) rfl rfl) _) fun _ =>
          Concur.forM (fun type => h.call (.registerOut ..) rfl rfl) _
      · refine Concur.bind (ih (position + 1)) fun slots => ?_
        split <;> exact Concur.pure fun _ _ hs => hs

theorem executeCallStatement (sql : String) (params : List Parameter) (options : Options) :
    Concur v.going (d.executeCallStatement sql params options)
      (d'.executeCallStatement sql params options)
      (fun r s s' => r.2.phase = .succeeded ∧ v.going s s') v.failed := by
  refine Concur.bind (Concur.lift (h.log_going.debug _)) fun _ => ?_
  refine h.runStatement fun i => Concur.surfaced ?_
  refine Concur.bind (h.bindParametersFrom i 1 params) fun slots => ?_
  exact Concur.bind (h.call (.execute i) rfl rfl) fun _ => Concur.pure fun _ _ hs => hs

theorem openCallRows (i : StatementId) (hasRows : Bool) :
    Concur v.going (d.openCallRows i hasRows) (d'.openCallRows i hasRows) (fun _ => v.going)
      v.failed := by
  unfold Driver.openCallRows
  split
  · refine Concur.lift_run (h.openCursor i) (fun current => ?_) fun f f' hf => ?_
    · exact Concur.pure fun _ _ hs => hs
    · refine Abreast.bind (h.closeStatementWarned _ i _) fun _ _ => Abreast.pure fun s s' hs => ?_
      exact ⟨hf, h.failed_of_failing _ s s' hs.2⟩
  · exact Concur.pure fun _ _ hs => hs

theorem executeCall (sql : String) (params : List Parameter) (options : Options)
    (handler : Option (OutMapper τ)) :
    Concur v.going (d.executeCall sql params options handler)
      (d'.executeCall sql params options handler) (fun _ => v.going) v.failed := by
  refine Concur.bind (h.executeCallStatement sql params options) fun r => ?_
  obtain ⟨⟨slots, hasRows⟩, guard⟩ := r
  refine Concur.assuming fun hp => ?_
  refine Concur.bind (releaseGuard hp) fun i => ?_
  exact Concur.bind (h.openCallRows i hasRows) fun current => Concur.pure fun _ _ hs => hs

theorem invokeCall (sql : String) (params : List Parameter) (options : Options)
    {mapper : OutMapper α} (hmapper : v.Reads d d' mapper) :
    Concur v.going (d.invokeCall sql params options mapper)
      (d'.invokeCall sql params options mapper) (fun _ => v.going) v.failed := by
  refine Concur.bind (h.executeCallStatement sql params options) fun r => ?_
  obtain ⟨⟨slots, hasRows⟩, guard⟩ := r
  refine Concur.assuming fun _ => ?_
  refine Concur.weaken (Concur.both (f := id) (hmapper guard.statement slots).1
    (h.call (.closeStatement guard.statement) rfl rfl).surfaced
    fun e => Abreast.surfaced (h.late _ e rfl rfl)) (fun _ _ _ hs => hs) h.failed_of_failing

end Accord

end SqlGateway
