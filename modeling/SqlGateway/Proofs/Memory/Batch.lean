import Mathlib.Algebra.GroupWithZero.Nat
import SqlGateway.Proofs.Memory.Twins

/-!
# Batches

An update that asks for counts in 64 bits comes to the same whether it sends its rows as a batch or
runs them one by one. The total is the sum of the counts that were reported, with nothing for a
negative one.
-/

namespace SqlGateway.Database

/-- The counts that a procedure reports if it is run for each row in turn, or the failure of the
first row that it fails for. -/
def Procedure.reports (p : Procedure) (table : Table) :
    List (List Value) → Except Failure (List Int64)
  | [] => .ok []
  | row :: rows =>
    match p table row with
    | (.ok e, table) => (reports p table rows).map (e.count :: ·)
    | (.error f, _) => .error f

namespace Memory

/-! ## Side by side -/

variable {n : Nat}

theorem useBatch_run (rows : List (List Value)) (options : Options) (s : Session Memory) :
    driver.useBatch rows options s =
      ((options.batch && decide (1 < rows.length)) && s.database.batch, s) := by
  unfold Driver.useBatch
  cases options.batch && decide (1 < rows.length) <;> rfl

theorem runUpdate_matches (sql : String) (rows : List (List Value)) (options : Options) :
    Matches (Twins n)
      (driver.runUpdate sql .none rows { options with batch := true } fun i batch =>
        surfaced (driver.runRows i rows true batch))
      (driver.runUpdate sql .none rows { options with batch := false } fun i batch =>
        surfaced (driver.runRows i rows true batch)) (fun _ => Twins n) (Twins n) := by
  have action (i : StatementId) : Matches (Untried n i)
      (do surfaced (driver.runRows i rows true
        (← ExceptT.lift (driver.useBatch rows { options with batch := true }))))
      (do surfaced (driver.runRows i rows true
        (← ExceptT.lift (driver.useBatch rows { options with batch := false }))))
      (fun _ => Twins n) (Twins n) := by
    intro s s' h
    rw [run_bind_of_ok (run_lift (useBatch_run rows _ s)),
      run_bind_of_ok (run_lift (useBatch_run rows _ s'))]
    exact (runRows_matches rows _).surfaced s s'
      ⟨fun hbatch => (Bool.and_eq_true_iff.mp hbatch).2, h⟩
  apply Matches.bind
  · exact Matches.runStatement twins_note twins_ask (twins_prepare sql .dml .none)
      (fun i => Matches.weaken (Respects.applyOptions untried_note _ fun c hc => untried_call hc)
        (fun _ _ _ hs => hs) fun _ _ hs => hs.toTwins) action twins_closeStatement
  · rintro ⟨total, guard⟩
    apply Matches.bind (twins_closeStatement guard.statement).surfaced
    intro _
    exact Respects.pure

theorem executeUpdate_matches (sql : String) (rows : List (List Value)) (options : Options) :
    Matches (Twins n)
      (driver.executeUpdate sql rows { options with large := true, batch := true })
      (driver.executeUpdate sql rows { options with large := true, batch := false })
      (fun _ => Twins n) (Twins n) := by
  unfold Driver.executeUpdate
  apply Matches.bind Respects.ofExcept
  intro _
  split
  · apply Matches.bind (Matches.lift (twins_note .debug _))
    intro _
    exact Respects.pure
  · apply Matches.bind (Matches.lift (twins_note .debug _))
    intro _
    unfold Driver.transacted
    split
    · exact Matches.inTransaction twins_note (fun c hc => twins_call (.inl hc)) twins_ask _
        (runUpdate_matches sql rows { options with large := true })
    · exact runUpdate_matches sql rows { options with large := true }

/-! ## Totals -/

variable {p : Procedure} {i : StatementId} {table : Table} {bound : List (Nat × Value)}
  {added : List (List Value)} {width : Nat} {rows : List (List Value)}

theorem runs_count : Secures (Runs p i table bound added) (driver.executeRow i true)
    (fun count _ => (p table (bound.map (·.2))).1.map (·.count) = .ok count) fun _ => True := by
  intro s hs
  have hvalues : (s.database.statement i).values = bound.map (·.2) := congrArg _ hs.bound
  rw [executeRow_run, hvalues]
  cases hp : p table (bound.map (·.2)) with
  | mk outcome after =>
      rw [← hs.table] at hp
      cases outcome with
      | error f =>
          rw [run_failed hs.procedure hp]
          trivial
      | ok e =>
          rw [run_done hs.procedure hp]
          rfl

theorem feeds_total (hrows : ∀ row ∈ rows, row.length = width) (total : UInt64) :
    Secures (Feeds p i width table added) (driver.countEach i true total rows)
      (fun v _ => ∃ counts, p.reports table rows = .ok counts ∧ v = totalOf total counts)
      fun _ => True := by
  induction rows generalizing table total with
  | nil => exact Secures.pure fun _ _ => ⟨[], rfl, rfl⟩
  | cons row rows ih =>
      have hrow := hrows row List.mem_cons_self
      apply Secures.bind (feeds_bindValues hrow)
      intro _
      apply Secures.bind (Secures.and runs_count (feeds_executeRow hrow true)).yields
      intro count
      apply Secures.assuming
      intro hcount
      rw [map_numbered] at hcount
      have hrest : Secures (Feeds p i width (p table row).2 added)
          (driver.countEach i true (total + countRows count) rows)
          (fun v _ => ∃ counts, p.reports (p table row).2 rows = .ok counts ∧
            v = totalOf (total + countRows count) counts) fun _ => True :=
        ih (fun row h => hrows row (List.mem_cons_of_mem _ h)) _
      apply Secures.weaken hrest _ fun _ hs => hs
      rintro v s ⟨counts, hcounts, rfl⟩
      refine ⟨count :: counts, ?_, rfl⟩
      cases hp : p table row with
      | mk outcome after =>
          rw [hp] at hcount hcounts
          cases outcome with
          | error f => cases hcount
          | ok e =>
              obtain rfl : e.count = count := Except.ok.inj hcount
              simp only [Procedure.reports, hp, hcounts]
              rfl

theorem totalOf_toNat (total : UInt64) (counts : List Int64)
    (h : total.toNat + (counts.map (·.toInt.toNat)).sum < 2 ^ 64) :
    (totalOf total counts).toNat = total.toNat + (counts.map (·.toInt.toNat)).sum := by
  rw [totalOf, toNat_foldl_countRows]
  exact Nat.mod_eq_of_lt h

/-- Where there are rows, the total is what comes of the counts that the procedure of the text
reports for them. -/
def Totals (db : Memory) (sql : String) (rows : List (List Value)) (total : UInt64) : Prop :=
  rows = [] ∧ total = 0 ∨ ∃ p counts, db.procedures.get? sql = some p ∧
    p.reports db.table rows = .ok counts ∧ total = totalOf 0 counts

/-- The rows are not sent as a batch where that was not asked for. -/
theorem runUpdate_single {α : Type} {sql : String} {keys : GeneratedKeys} {options : Options}
    {action : StatementId → Bool → Act Memory Error α} (h : options.batch = false) :
    driver.runUpdate sql keys rows options action =
      driver.runUpdate sql keys rows options fun i _ => action i false := by
  have hsingle : driver.useBatch rows options = pure false := by
    simp [Driver.useBatch, h]
  unfold Driver.runUpdate
  rw [hsingle]
  rfl

theorem runUpdate_total (db : Memory) (sql : String) {options : Options}
    (hrows : ∀ row ∈ rows, row.length = width) (hlarge : options.large = true)
    (hbatch : options.batch = false) :
    Secures (fun s => s.database.procedures = db.procedures ∧ s.database.table = db.table)
      (driver.runUpdate sql .none rows options fun i batch =>
        surfaced (driver.runRows i rows options.large batch))
      (fun total _ => Totals db sql rows total) fun _ => True := by
  rw [runUpdate_single hbatch, hlarge]
  have counted (p : Procedure) (i : StatementId) :
      Secures (Feeds p i width db.table []) (driver.runRows i rows true false)
        (fun total s =>
          (∃ counts, p.reports db.table rows = .ok counts ∧ total = totalOf 0 counts) ∧
            Feeds p i width (onRows p db.table rows) [] s) fun _ => True :=
    (Secures.and (feeds_total hrows 0) (feeds_countEach hrows true 0)).yields
  apply Secures.weaken (runUpdate_runs fun p i _ => (counted p i).surfaced) _ fun _ hs => hs
  rintro total s ⟨p, hp, ⟨counts, hcounts, rfl⟩, -⟩
  exact .inr ⟨p, counts, hp, hcounts, rfl⟩

/-- The calls before the rows leave the procedures and the table as they are. -/
theorem perform_keeps {procedures : Registry String Procedure} {c : Call}
    (hc : c.isTransactional = true) (hne : ∀ q, c ≠ .rollbackTo q) :
    Keeps (fun s => s.database.procedures = procedures ∧ s.database.table = table)
      (driver.perform c) := by
  have halters : alters c = false := by
    cases c with
    | rollbackTo q => exact absurd rfl (hne q)
    | autoCommit | setAutoCommit | isolation | setIsolation | setSavepoint | releaseSavepoint
    | commit => rfl
    | _ => cases hc
  apply Secures.of_run
  rintro s ⟨hprocedures, htable⟩
  have hkept := script_call s.database halters ⟨0⟩
  exact ⟨(congrArg Script.procedures hkept).trans hprocedures,
    (congrArg Script.table hkept).trans htable⟩

theorem executeUpdate_total (db : Memory) (sql : String) (rows : List (List Value))
    (options : Options) (hlarge : options.large = true) (hbatch : options.batch = false) :
    Yields (fun s => s.database.procedures = db.procedures ∧ s.database.table = db.table)
      (driver.executeUpdate sql rows options) (fun total _ => Totals db sql rows total) := by
  refine Driver.executeUpdate_yields (fun _ _ hs => hs) ?_ (fun c hc hne => perform_keeps hc hne)
    (fun _ _ _ _ => driver.perform_secures (fun _ _ _ _ hs => hs) fun _ _ _ _ hs => hs)
    (fun hempty _ _ => .inl ⟨hempty, rfl⟩)
    fun hwidths => runUpdate_total db sql (width_of_checkArity hwidths) hlarge hbatch
  intro q
  refine driver.ask_triple fun s answer db hprobe hs => ?_
  cases q <;> cases hprobe <;> exact hs

/-- As a batch and one by one, rows come to the same result and leave the same session but for what
the statement that ran them holds. -/
theorem update_batch_single (s : Session Memory) (sql : String) (rows : List (List Value))
    (options : Options) :
    let batched :=
      (driver.executeUpdate sql rows { options with large := true, batch := true }).run s
    let single :=
      (driver.executeUpdate sql rows { options with large := true, batch := false }).run s
    batched.1 = single.1 ∧ Twins s.statements batched.2 single.2 ∧
      ∀ total, batched.1 = .ok total → rows = [] ∧ total = 0 ∨
        ∃ p counts, s.database.procedures.get? sql = some p ∧
          p.reports s.database.table rows = .ok counts ∧
          ((counts.map (·.toInt.toNat)).sum < 2 ^ 64 →
            total.toNat = (counts.map (·.toInt.toNat)).sum) := by
  intro batched single
  obtain ⟨hresult, htwins⟩ := Respects.run (executeUpdate_matches sql rows options) s s
    (Twins.refl (Nat.le_refl s.statements))
  refine ⟨hresult, htwins, fun total htotal => ?_⟩
  have hsettled : Settled (fun total _ => Totals s.database sql rows total) (fun _ => True)
      single.1 single.2 :=
    executeUpdate_total s.database sql rows { options with large := true, batch := false } rfl rfl s
      ⟨rfl, rfl⟩
  rw [← hresult, htotal] at hsettled
  rcases hsettled with hempty | ⟨p, counts, hp, hcounts, rfl⟩
  · exact .inl hempty
  · refine .inr ⟨p, counts, hp, hcounts, fun hsum => ?_⟩
    rw [totalOf_toNat 0 counts (by simpa using hsum)]
    simp

end Memory

end SqlGateway.Database
