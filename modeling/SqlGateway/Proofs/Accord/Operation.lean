import SqlGateway.Client.Run
import SqlGateway.Proofs.Accord.Cursor
import SqlGateway.Proofs.Act.Transaction
import SqlGateway.Proofs.Gateway.Build

/-!
# Operations in accord

All that a caller can have the library do is given as data. If two drivers lead from phase to phase
side by side, and what the caller brings along makes the same of what it is told, then an operation
gives the same on both.
-/

namespace SqlGateway

variable {σ σ' τ α β ι : Type} {d : Driver σ} {d' : Driver σ'} {v : Phases σ σ'}

/-! ## Transactions -/

/-- What holds around a transaction: `P`, and `E` after an error, which is `E₀` where a call of the
transaction itself has failed. In it, once there is a savepoint, `Q` and `F` hold. -/
structure Bracket (d : Driver σ) (d' : Driver σ') (P : Session σ → Session σ' → Prop)
    (E₀ E : Error → Session σ → Session σ' → Prop) (Q : Savepoint → Session σ → Session σ' → Prop)
    (F : Savepoint → Error → Session σ → Session σ' → Prop) : Prop where
  log (e : Error) : Unlogged (E₀ e)
  log_inside (p : Savepoint) (e : Error) : Unlogged (F p e)
  failed (e : Error) (s : Session σ) (s' : Session σ') : E₀ e s s' → E e s s'
  autoCommit : Concur P (d.perform .autoCommit) (d'.perform .autoCommit) (fun _ => P) E₀
  isolation : Concur P (d.perform .isolation) (d'.perform .isolation) (fun _ => P) E₀
  setAutoCommit (a : Bool) :
    Concur P (d.perform (.setAutoCommit a)) (d'.perform (.setAutoCommit a)) (fun _ => P) E₀
  setIsolation (l : IsolationLevel) :
    Concur P (d.perform (.setIsolation l)) (d'.perform (.setIsolation l)) (fun _ => P) E₀
  lateAutoCommit (a : Bool) (e : Error) : Abreast (E₀ e) (d.perform (.setAutoCommit a)).run
    (d'.perform (.setAutoCommit a)).run fun _ _ => E₀ e
  lateIsolation (l : IsolationLevel) (e : Error) : Abreast (E₀ e) (d.perform (.setIsolation l)).run
    (d'.perform (.setIsolation l)).run fun _ _ => E₀ e
  setSavepoint : Concur P (d.perform .setSavepoint) (d'.perform .setSavepoint) Q E₀
  ask (p : Savepoint) (l : IsolationLevel) :
    Abreast (Q p) (d.ask (.supportsIsolation l)) (d'.ask (.supportsIsolation l)) (Same fun _ => Q p)
  changeIsolation (p : Savepoint) (l : IsolationLevel) :
    Concur (Q p) (d.perform (.setIsolation l)) (d'.perform (.setIsolation l)) (fun _ => Q p) (F p)
  commit (p : Savepoint) : Concur (Q p) (d.perform .commit) (d'.perform .commit) (fun _ => P) (F p)
  abort (p : Savepoint) (e : Error) (autoCommit : Bool) (isolation : Option IsolationLevel) :
    Abreast (F p e) (d.abort p autoCommit isolation) (d'.abort p autoCommit isolation)
      fun _ _ => E e

/-- Auto-commit and isolation are put back where that keeps what holds. -/
theorem Abreast.restore {P : Session σ → Session σ' → Prop} (hlog : Unlogged P)
    (hautoCommit : ∀ a, Abreast P (d.perform (.setAutoCommit a)).run
      (d'.perform (.setAutoCommit a)).run
      fun _ _ => P)
    (hisolation : ∀ l,
      Abreast P (d.perform (.setIsolation l)).run (d'.perform (.setIsolation l)).run fun _ _ => P)
    (autoCommit : Bool) (isolation : Option IsolationLevel) :
    Abreast P (d.restore autoCommit isolation) (d'.restore autoCommit isolation) fun _ _ => P := by
  refine Abreast.same_bind (Abreast.orWarn hlog (hautoCommit autoCommit) _) fun _ => ?_
  cases isolation with
  | none => exact Abreast.pure fun _ _ hs => hs
  | some level =>
      exact Abreast.weaken (Abreast.orWarn hlog (hisolation level) _) fun _ _ _ _ hs => hs.2

namespace Bracket

variable {P : Session σ → Session σ' → Prop} {E₀ E : Error → Session σ → Session σ' → Prop}
  {Q : Savepoint → Session σ → Session σ' → Prop}
  {F : Savepoint → Error → Session σ → Session σ' → Prop} (b : Bracket d d' P E₀ E Q F)
include b

theorem putBack (autoCommit : Bool) (isolation : Option IsolationLevel) (value : α) :
    Concur P (d.putBack autoCommit isolation value) (d'.putBack autoCommit isolation value)
      (fun _ => P) E₀ := by
  have restored := (b.setAutoCommit autoCommit).surfaced
  cases isolation with
  | none =>
      have nothing : Concur P (pure () : Act σ Error Unit) (pure () : Act σ' Error Unit)
          (fun _ => P) E₀ := Concur.pure fun _ _ hs => hs
      have done := Concur.both (f := fun _ => value) restored nothing fun e =>
        Abreast.pure fun _ _ hs => hs
      exact done
  | some level =>
      exact Concur.both (f := fun _ => value) restored (b.setIsolation level).surfaced fun e =>
        Abreast.surfaced (b.lateIsolation level e)

theorem leveled (p : Savepoint) (wanted : Option IsolationLevel) (before : IsolationLevel) :
    Concur (Q p) (d.changeIsolation wanted before) (d'.changeIsolation wanted before)
      (fun _ => Q p) (F p) := by
  cases wanted with
  | none => exact Concur.pure fun _ _ hs => hs
  | some level =>
      unfold Driver.changeIsolation
      dsimp only
      split
      · exact Concur.pure fun _ _ hs => hs
      · refine Concur.bind (Concur.lift (b.ask p level)) fun supported => ?_
        cases supported with
        | true =>
            exact Concur.bind (b.changeIsolation p level) fun _ => Concur.pure fun _ _ hs => hs
        | false => exact Concur.pure fun _ _ hs => hs

theorem inTransaction {act : Act σ Error α} {act' : Act σ' Error α}
    (hact : ∀ p, Concur (Q p) act act' (fun _ => Q p) (F p)) (isolation : Option IsolationLevel) :
    Concur P (d.inTransaction isolation act) (d'.inTransaction isolation act') (fun _ => P) E := by
  have opening {β : Type} {act : Act σ Failure β} {act' : Act σ' Failure β}
      (h : Concur P act act' (fun _ => P) E₀) :
      Concur P (surfaced act) (surfaced act') (fun _ => P) E :=
    Concur.weaken h.surfaced (fun _ _ _ hs => hs) b.failed
  refine Concur.bind (opening b.autoCommit) fun autoCommit => ?_
  refine Concur.bind (opening b.isolation) fun before => ?_
  refine Concur.bind (opening (b.setAutoCommit false)) fun _ => ?_
  refine Concur.lift_run b.setSavepoint (fun p => ?_) fun f f' hf => ?_
  · refine Concur.lift_run (b.leveled p isolation before) (fun changed => ?_) fun f f' hf => ?_
    · refine Concur.lift_run (Q := fun _ => P) (E := F p) ?_ (fun value => ?_) fun e e' he => ?_
      · refine Concur.bind (hact p) fun value => ?_
        exact Concur.bind (b.commit p).surfaced fun _ => Concur.pure fun _ _ hs => hs
      · exact Concur.weaken (b.putBack autoCommit changed value) (fun _ _ _ hs => hs) b.failed
      · obtain rfl : e = e' := he
        refine Concur.bind (Concur.lift ((b.log_inside p e).debug _)) fun _ => ?_
        exact Abreast.bind (b.abort p e autoCommit changed) fun _ _ =>
          Abreast.pure fun _ _ hs => ⟨rfl, hs⟩
    · exact Abreast.bind (b.abort p _ autoCommit none) fun _ _ =>
        Abreast.pure fun _ _ hs => ⟨hf, hs⟩
  · have restored := Abreast.restore (b.log (.ofFailure f)) (b.lateAutoCommit · _)
      (b.lateIsolation · _) autoCommit none
    exact Abreast.bind restored fun _ _ => Abreast.pure fun s s' hs => ⟨hf, b.failed _ s s' hs⟩

end Bracket

/-- Drivers in accord wherever a transaction leads to. -/
structure Concord (d : Driver σ) (d' : Driver σ') (v : ι → Phases σ σ') : Prop where
  accord (x : ι) : Accord d d' (v x)
  transaction {α : Type} {act : Act σ Error α} {act' : Act σ' Error α}
    (isolation : Option IsolationLevel)
    (h : ∀ x, Concur (v x).going act act' (fun _ => (v x).going) (v x).failed) (x : ι) :
    Concur (v x).going (d.inTransaction isolation act) (d'.inTransaction isolation act')
      (fun _ => (v x).going) (v x).failed

/-- Where no difference is made between a transaction and what is around it. -/
theorem Accord.concord (h : Accord d d' v)
    (hask : ∀ p, Abreast v.going (d.ask p) (d'.ask p) (Same fun _ => v.going))
    (hcall : ∀ c : Call, c.isTransactional = true →
      Concur v.going (d.perform c) (d'.perform c) (fun _ => v.going) v.failed)
    (hlate : ∀ (c : Call) e, c.isTransactional = true →
      Abreast (v.failed e) (d.perform c).run (d'.perform c).run fun _ _ => v.failed e) :
    Concord d d' fun _ : Unit => v where
  accord _ := h
  transaction isolation hact x := by
    have b : Bracket d d' v.going v.failed v.failed (fun _ => v.going) fun _ => v.failed := {
      log := h.log_failed
      log_inside := fun _ => h.log_failed
      failed := fun _ _ _ hs => hs
      autoCommit := hcall _ rfl
      isolation := hcall _ rfl
      setAutoCommit := fun _ => hcall _ rfl
      setIsolation := fun _ => hcall _ rfl
      lateAutoCommit := fun _ e => hlate _ e rfl
      lateIsolation := fun _ e => hlate _ e rfl
      setSavepoint := hcall .setSavepoint rfl
      ask := fun _ _ => hask _
      changeIsolation := fun _ _ => hcall _ rfl
      commit := fun _ => hcall _ rfl
      abort := fun p e autoCommit isolation => by
        have log := h.log_failed e
        refine Abreast.same_bind (Abreast.orWarn log (hlate (.rollbackTo p) e rfl) _) fun _ => ?_
        refine Abreast.same_bind (Abreast.orWarn log (hlate (.releaseSavepoint p) e rfl) _)
          fun _ => ?_
        exact Abreast.restore log (fun _ => hlate _ e rfl) (fun _ => hlate _ e rfl) autoCommit
          isolation }
    exact b.inTransaction (fun _ => hact x) isolation

/-! ## Updates -/

/-- Every row of an update is of the width of the first, or nothing is done. -/
theorem Accord.checked (h : Accord d d' v) (rows : List (List Value)) :
    Concur v.going (MonadExcept.ofExcept (checkArity rows) : Act σ Error Unit)
      (MonadExcept.ofExcept (checkArity rows)) (fun _ => v.going) v.failed := by
  refine Concur.ofExcept (fun _ _ _ _ hs => hs) fun e he s s' hs => ?_
  refine h.failed_of_failing e s s' (h.refusal e s s' (fun reason hreason => ?_) hs)
  unfold checkArity at he
  dsimp only at he
  split at he
  · cases he
    cases hreason
  · cases he

theorem Accord.connect (h : Accord d d' v) (provider : Provider) :
    Concur v.going (provider.connect d) (provider.connect d') (fun _ => v.going) v.failed := by
  cases provider with
  | shared => exact Concur.pure fun _ _ hs => hs
  | onDemand => exact h.perform .acquire rfl rfl

namespace Concord

variable {v : ι → Phases σ σ'} (h : Concord d d' v) (x : ι)
include h

theorem transacted {act : Act σ Error α} {act' : Act σ' Error α} (rows : List (List Value))
    (options : Options)
    (hact : ∀ x, Concur (v x).going act act' (fun _ => (v x).going) (v x).failed) :
    Concur (v x).going (d.transacted rows options act) (d'.transacted rows options act')
      (fun _ => (v x).going) (v x).failed := by
  unfold Driver.transacted
  split
  · exact h.transaction options.isolation hact x
  · exact hact x

theorem executeUpdate (sql : String) (rows : List (List Value)) (options : Options) :
    Concur (v x).going (d.executeUpdate sql rows options) (d'.executeUpdate sql rows options)
      (fun _ => (v x).going) (v x).failed := by
  have run : Concur (v x).going
      (d.transacted rows options (d.runUpdate sql .none rows options fun i batch =>
        surfaced (d.runRows i rows options.large batch)))
      (d'.transacted rows options (d'.runUpdate sql .none rows options fun i batch =>
        surfaced (d'.runRows i rows options.large batch))) (fun _ => (v x).going) (v x).failed :=
    h.transacted x rows options fun x => (h.accord x).runUpdate fun i batch =>
      ((h.accord x).runRows i rows options.large batch).surfaced
  have log := (h.accord x).log_going
  refine Concur.bind ((h.accord x).checked rows) fun _ => ?_
  split
  · exact Concur.bind (Concur.lift (log.debug _)) fun _ => Concur.pure fun _ _ hs => hs
  · exact Concur.bind (Concur.lift (log.debug _)) fun _ => run

theorem executeUpdateWithKeys {mapper : RowMapper α} (hmapper : ∀ x, (v x).Maps d d' mapper)
    (sql : String) (rows : List (List Value)) (options : Options) (keys : GeneratedKeys)
    (aggregate : List α → β) :
    Concur (v x).going (d.executeUpdateWithKeys sql rows options keys mapper aggregate)
      (d'.executeUpdateWithKeys sql rows options keys mapper aggregate)
      (fun _ => (v x).going) (v x).failed := by
  have run (keys : GeneratedKeys) : Concur (v x).going
      (d.transacted rows options (d.runUpdate sql keys rows options fun i batch =>
        d.runKeys i rows options.large batch mapper))
      (d'.transacted rows options (d'.runUpdate sql keys rows options fun i batch =>
        d'.runKeys i rows options.large batch mapper)) (fun _ => (v x).going) (v x).failed :=
    h.transacted x rows options fun x => (h.accord x).runUpdate fun i batch =>
      (h.accord x).runKeys (hmapper x) i rows options.large batch
  have log := (h.accord x).log_going
  refine Concur.bind ((h.accord x).checked rows) fun _ => ?_
  split
  · exact Concur.bind (Concur.lift (log.debug _)) fun _ => Concur.pure fun _ _ hs => hs
  · refine Concur.bind (Concur.lift (log.debug _)) fun _ => ?_
    exact Concur.bind (run (if keys.isRequested then keys else .all)) fun collected =>
      Concur.pure fun _ _ hs => hs

theorem update (u : Update) :
    Concur (v x).going (u.execute d) (u.execute d') (fun _ => (v x).going) (v x).failed :=
  Concur.bind ((h.accord x).connect u.provider) fun _ => h.executeUpdate x u.sql u.rows u.options

theorem updateWithKeys {mapper : RowMapper α} (hmapper : ∀ x, (v x).Maps d d' mapper) (u : Update)
    (keys : GeneratedKeys) (aggregate : List α → β) :
    Concur (v x).going (u.executeWithKeys d keys mapper aggregate)
      (u.executeWithKeys d' keys mapper aggregate) (fun _ => (v x).going) (v x).failed :=
  Concur.bind ((h.accord x).connect u.provider) fun _ =>
    h.executeUpdateWithKeys x hmapper u.sql u.rows u.options keys aggregate

end Concord

/-! ## Queries and calls -/

namespace Accord

variable (h : Accord d d' v)
include h

theorem select (q : Select) :
    Concur v.going (q.execute d : Act σ Error (ResultCursor τ)) (q.execute d')
      (fun cursor s s' => cursor.handler = .unarmed ∧ cursor.Sound ∧ v.going s s')
      v.failed :=
  Concur.bind (h.connect q.provider) fun _ => h.executeQuery q.query.sql q.query.values q.options

theorem single (q : Select) {mapper : RowMapper α} (hmapper : v.Maps d d' mapper) :
    Concur v.going (q.single d mapper) (q.single d' mapper) (fun _ => v.done) v.failed := by
  have close (cursor : ResultCursor Empty) (first : Option α) : Concur v.going
      (do
        d.close cursor
        return first : Act σ Error (Option α))
      (do
        d'.close cursor
        return first) (fun _ => v.done) v.failed :=
    Concur.bind (Concur.weaken (h.close cursor) (fun _ _ _ hs => hs) h.failed_of_failing) fun _ =>
      Concur.pure h.done_of_going
  refine Concur.bind (h.select q) fun cursor => ?_
  refine Concur.assuming fun hunarmed => ?_
  refine Concur.assuming fun hsound => ?_
  have ht : v.Tends d d' cursor := fun mapper harmed => nomatch hunarmed.symm.trans harmed
  have moved := (h.nextRow ht).knowing fun s =>
    ((Driver.custody_true d).nextRow hsound [] s trivial).1
  refine Concur.bind (Concur.lift moved) fun r => ?_
  obtain ⟨row, cursor⟩ := r
  refine Concur.assuming fun hmoved => ?_
  refine Concur.assuming fun _ => ?_
  rcases row with e | _ | row
  case error => exact fun s s' hs => ⟨rfl, h.failed_of_failing e s s' hs⟩
  case ok.none =>
    -- the cursor was given up at its end, so there is nothing left to be closed
    obtain ⟨statement, current⟩ := cursor
    obtain rfl : statement = none := hmoved.statement
    obtain rfl : current = none := hmoved.current
    exact fun s s' hs => ⟨rfl, hs⟩
  case ok.some =>
    refine Concur.bind (Q := fun first s s' => first = some row ∧ v.going s s')
      (fun s s' hs => ⟨rfl, rfl, hs⟩) fun first => ?_
    refine Concur.assuming fun hfirst => ?_
    subst hfirst
    refine Concur.lift_run (hmapper row.cursor row.row) (fun a => ?_) fun e e' he => ?_
    · exact close cursor (some a)
    · obtain rfl : e = e' := he
      refine Concur.bind (Concur.lift (h.dropLate cursor e)) fun _ => ?_
      exact Concur.throw (h.failed_of_failing e)

theorem procedureCall (c : ProcedureCall τ) :
    Concur v.going (c.execute d) (c.execute d') (fun _ => v.going) v.failed :=
  Concur.bind (h.connect c.provider) fun _ => h.executeCall c.sql c.params c.options c.handler

theorem invoke (c : ProcedureCall τ) {mapper : OutMapper α} (hmapper : v.Reads d d' mapper) :
    Concur v.going (c.invokeWith d mapper) (c.invokeWith d' mapper) (fun _ => v.going) v.failed :=
  Concur.bind (h.connect c.provider) fun _ => h.invokeCall c.sql c.params c.options hmapper

end Accord

/-- What is wrong with a text or with parameters is no failed execution. -/
theorem Gateway.build_ne_execution {sql : String} {params : Params} {e : Error}
    (h : Gateway.build sql params = .error e) (reason : ExecutionFailure) :
    e ≠ .execution reason := by
  rintro rfl
  cases hclean : Sql.normalize sql with
  | ok clean =>
      obtain ⟨misuse, hmisuse⟩ := Gateway.build_misuses hclean params _ h
      cases hmisuse
  | error e =>
      unfold Gateway.build at h
      rw [hclean] at h
      cases h
      unfold Sql.normalize at hclean
      split at hclean <;> cases hclean

theorem Concord.execute {v : ι → Phases σ σ'} (h : Concord d d' v) (x : ι) (g : Gateway)
    (sql : String) (params : Params) :
    Concur (v x).going (g.execute d sql params : Act σ Error (Outcome τ)) (g.execute d' sql params)
      (fun _ => (v x).going) (v x).failed := by
  unfold Gateway.execute
  refine Concur.bind (Concur.ofExcept (fun _ _ _ _ hs => hs) fun e he s s' hs => ?_) fun query => ?_
  · have hrefused := (h.accord x).refusal e s s' (Gateway.build_ne_execution he) hs
    exact (h.accord x).failed_of_failing e s s' hrefused
  · split
    · exact Concur.bind ((h.accord x).select _) fun cursor => Concur.pure fun _ _ hs => hs.2.2
    · exact Concur.bind (h.update x _) fun count => Concur.pure fun _ _ hs => hs
    · exact Concur.bind ((h.accord x).procedureCall _) fun cursor => Concur.pure fun _ _ hs => hs

end SqlGateway
