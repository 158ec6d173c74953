import Mathlib.Control.Monad.Basic
import SqlGateway.Database.Memory.Procedure
import SqlGateway.Proofs.Act.Unless
import SqlGateway.Proofs.Memory.Batch

/-!
# Counts in 32 bits

Rows that are run one by one are counted in 32 bits unless 64 are asked for, and a count that does
not fit is a failure. A batch is counted in 64 bits in any case. So both ways come to the same as
long as every count fits, and only the batch succeeds where one does not.
-/

namespace SqlGateway.Database

/-- The count fits into 32 bits. -/
def Narrow (count : Int64) : Prop :=
  Int32.minValue.toInt ≤ count.toInt ∧ count.toInt ≤ Int32.maxValue.toInt

instance (count : Int64) : Decidable (Narrow count) :=
  inferInstanceAs (Decidable (_ ∧ _))

/-- What a count that does not fit is reported as. -/
def overflow : Failure :=
  .plain "Update count overflows i32"

theorem map_narrow_of_narrow {count : Int64} (h : Narrow count) :
    (narrow count).map Int32.toInt64 = .ok count := by
  have hback : count.toInt32.toInt64 = count := by
    apply Int64.toInt_inj.mp
    rw [Int32.toInt_toInt64, Int64.toInt_toInt32]
    exact Int.bmod_eq_of_le h.1 (Int.lt_of_le_of_lt h.2 (by decide))
  unfold narrow
  rw [if_pos (by simpa [Narrow] using h)]
  exact congrArg Except.ok hback

theorem map_narrow_of_not_narrow {count : Int64} (h : ¬ Narrow count) :
    (narrow count).map Int32.toInt64 = .error overflow := by
  unfold narrow
  rw [if_neg (by simpa [Narrow] using h)]
  rfl

namespace Procedure

/-- Every count that the procedure reports for the rows fits, if it fails for none of them. -/
def Fits (p : Procedure) (table : Table) (rows : List (List Value)) : Prop :=
  ∀ counts, p.reports table rows = .ok counts → ∀ count ∈ counts, Narrow count

/-- Of the counts that the procedure reports for the rows one does not fit, if it fails for none of
them. -/
def Exceeds (p : Procedure) (table : Table) (rows : List (List Value)) : Prop :=
  ∀ counts, p.reports table rows = .ok counts → ∃ count ∈ counts, ¬ Narrow count

theorem reports_cons {p : Procedure} {table : Table} {row : List Value}
    {rows : List (List Value)} {count : Int64} (h : (p table row).1.map (·.count) = .ok count) :
    p.reports table (row :: rows) = (p.reports (p table row).2 rows).map (count :: ·) := by
  rw [Procedure.reports]
  cases hp : p table row with
  | mk outcome after =>
      rw [hp] at h
      cases outcome <;> cases h
      rfl

end Procedure

theorem ok_of_map {ε α β : Type} {f : α → β} {r : Except ε α} {b : β} (h : r.map f = .ok b) :
    ∃ a, r = .ok a ∧ f a = b := by
  cases r <;> cases h
  exact ⟨_, rfl, rfl⟩

namespace Memory

/-! ## Rows -/

section

variable {p : Procedure} {i : StatementId} {width : Nat} {table : Table}
  {added rows : List (List Value)}

/-- In 32 bits a row is run as in 64. -/
theorem executeRow_narrow (i : StatementId) (s : Session Memory) :
    (driver.executeRow i false).run s =
      (((driver.executeRow i true).run s).1.bind fun count => (narrow count).map Int32.toInt64,
        ((driver.executeRow i true).run s).2) := by
  have hcall : (driver.perform (.executeUpdate i)).run s = ((s.database.count i).1.bind narrow,
      { s with database := (s.database.count i).2 }) := Driver.perform_run rfl
  have hlarge : (driver.executeRow i true).run s =
      ((s.database.count i).1, { s with database := (s.database.count i).2 }) :=
    Driver.perform_run (d := driver) (c := .executeLargeUpdate i) rfl
  have hsmall : driver.executeRow i false =
      Int32.toInt64 <$> driver.perform (.executeUpdate i) := rfl
  rw [hsmall, run_map, hcall, hlarge]
  cases (s.database.count i).1 <;> rfl

theorem countEach_narrow (hrows : ∀ row ∈ rows, row.length = width) (total : UInt64) :
    SameUnless (Feeds p i width table added) overflow
      (p.Fits table rows) (p.Exceeds table rows)
      (driver.countEach i false total rows) (driver.countEach i true total rows) := by
  induction rows generalizing table total with
  | nil =>
      refine fun s _ => .inl ⟨rfl, fun _ _ counts hcounts => ?_⟩
      cases hcounts
      exact List.forall_mem_nil _
  | cons row rows ih =>
      have hrow := hrows row List.mem_cons_self
      refine SameUnless.after (feeds_bindValues hrow) fun _ => ?_
      intro s hs
      have hcounted := runs_count s hs
      have hfed := feeds_executeRow hrow true s hs
      generalize hlarge : (driver.executeRow i true).run s = result at hcounted hfed
      obtain ⟨r, s₁⟩ := result
      have hsmall := executeRow_narrow i s
      rw [hlarge] at hsmall
      cases r with
      | error f =>
          rw [run_bind_of_error hlarge, run_bind_of_error hsmall]
          exact .inl ⟨rfl, nofun⟩
      | ok count =>
          change _ = ((narrow count).map Int32.toInt64, s₁) at hsmall
          rw [map_numbered] at hcounted
          have hreports : p.reports table (row :: rows) = _ := Procedure.reports_cons hcounted
          unfold Procedure.Fits Procedure.Exceeds
          rw [hreports, run_bind_of_ok hlarge]
          by_cases hnarrow : Narrow count
          · rw [map_narrow_of_narrow hnarrow] at hsmall
            rw [run_bind_of_ok hsmall]
            refine (ih (fun row h => hrows row (List.mem_cons_of_mem _ h))
              (total + countRows count) s₁
              hfed).imp ?_ ?_
            · refine fun ⟨hsame, hok⟩ => ⟨hsame, fun a ha counts hcounts => ?_⟩
              obtain ⟨rest, hrest, rfl⟩ := ok_of_map hcounts
              exact List.forall_mem_cons.mpr ⟨hnarrow, hok a ha rest hrest⟩
            · refine fun ⟨hfails, hwide⟩ => ⟨hfails, fun counts hcounts => ?_⟩
              obtain ⟨rest, hrest, rfl⟩ := ok_of_map hcounts
              obtain ⟨wide, hmem, hw⟩ := hwide rest hrest
              exact ⟨wide, List.mem_cons_of_mem _ hmem, hw⟩
          · rw [map_narrow_of_not_narrow hnarrow] at hsmall
            rw [run_bind_of_error hsmall]
            refine .inr ⟨rfl, fun counts hcounts => ?_⟩
            obtain ⟨rest, -, rfl⟩ := ok_of_map hcounts
            exact ⟨count, List.mem_cons_self, hnarrow⟩

end

/-! ## Updates -/

section

variable {sql : String} {rows : List (List Value)} {table : Table}
  {procedures : Registry String Procedure} {options : Options}

theorem runUpdate_sameUnless (width : Nat) {N W : Procedure → Prop}
    {action action' : StatementId → Bool → Act Memory Error UInt64}
    (h : ∀ p i batch, SameUnless (Feeds p i width table []) (.ofFailure overflow) (N p) (W p)
      (action i batch) (action' i batch)) :
    SameUnless (fun s => s.database.procedures = procedures ∧ s.database.table = table)
      (.ofFailure overflow) (∀ p, procedures.get? sql = some p → N p)
      (∃ p, procedures.get? sql = some p ∧ W p)
      (driver.runUpdate sql .none rows options action)
      (driver.runUpdate sql .none rows options action') := by
  refine SameUnless.before (SameUnless.runStatement
    (R := fun i => Stands procedures sql i width fun _ => table)
    (driver.ask_triple fun s answer db hprobe hs => by cases hprobe; exact hs) (stands_prepare _ _)
    (fun i => stands_applyOptions options) fun i => ?_)
  refine SameUnless.after (E := fun _ => True)
    (Secures.lift (Driver.useBatch_triple (stands_ask _)))
    fun batch => ?_
  rintro s ⟨p, hp, hs⟩
  refine (h p i batch s hs).imp (fun ⟨hsame, hok⟩ => ⟨hsame, fun a ha q hq => ?_⟩)
    fun ⟨hfails, hw⟩ => ⟨hfails, p, hp, hw⟩
  obtain rfl := Option.some.inj (hp.symm.trans hq)
  exact hok a ha

theorem runRows_sameUnless (sql : String) (procedures : Registry String Procedure) (table : Table)
    (options : Options) {width : Nat} (hwidth : ∀ row ∈ rows, row.length = width) :
    SameUnless (fun s => s.database.procedures = procedures ∧ s.database.table = table)
      (.ofFailure overflow)
      (options.batch = false → ∀ p, procedures.get? sql = some p → p.Fits table rows)
      (∃ p, procedures.get? sql = some p ∧ p.Exceeds table rows)
      (driver.runUpdate sql .none rows options fun i batch =>
        surfaced (driver.runRows i rows false batch))
      (driver.runUpdate sql .none rows options fun i batch =>
        surfaced (driver.runRows i rows true batch)) := by
  cases hbatch : options.batch with
  | true =>
      refine (runUpdate_sameUnless width (N := fun _ => True) fun p i batch => ?_).weaken
        fun _ => nofun
      cases batch with
      | true => exact SameUnless.same trivial
      | false => exact ((countEach_narrow hwidth 0).weaken fun _ => trivial).surfaced
  | false =>
      have single (large : Bool) : (driver.runUpdate sql .none rows options fun i batch =>
            surfaced (driver.runRows i rows large batch)) =
          driver.runUpdate sql .none rows options fun i _ =>
            surfaced (driver.runRows i rows large false) :=
        runUpdate_single hbatch
      rw [single, single]
      exact (runUpdate_sameUnless width fun p i _ => (countEach_narrow hwidth 0).surfaced).weaken
        fun h _ => h

theorem executeUpdate_sameUnless (db : Memory) (sql : String) (rows : List (List Value))
    (options : Options) :
    SameUnless (fun s => s.database.procedures = db.procedures ∧ s.database.table = db.table)
      (.ofFailure overflow)
      (options.batch = false → ∀ p, db.procedures.get? sql = some p → p.Fits db.table rows)
      (∃ p, db.procedures.get? sql = some p ∧ p.Exceeds db.table rows)
      (driver.executeUpdate sql rows { options with large := false })
      (driver.executeUpdate sql rows { options with large := true }) := by
  have checked : Secures
      (fun s => s.database.procedures = db.procedures ∧ s.database.table = db.table)
      (MonadExcept.ofExcept (checkArity rows) : Act Memory Error Unit)
      (fun _ s => checkArity rows = .ok () ∧ s.database.procedures = db.procedures ∧
        s.database.table = db.table) fun _ => True :=
    Secures.ofExcept (fun _ h _ hs => ⟨h, hs⟩) fun _ _ _ _ => trivial
  have debugged (text : String) : Secures
      (fun s => s.database.procedures = db.procedures ∧ s.database.table = db.table)
      (ExceptT.lift (Session.debug text) : Act Memory Error Unit)
      (fun _ s => s.database.procedures = db.procedures ∧ s.database.table = db.table)
      fun _ => True :=
    Secures.lift fun _ hs => hs
  unfold Driver.executeUpdate
  refine SameUnless.after checked fun _ => SameUnless.assuming fun hwidths => ?_
  split
  · rename_i hempty
    refine SameUnless.same fun _ p _ counts hcounts => ?_
    rw [List.isEmpty_iff.mp hempty] at hcounts
    cases hcounts
    exact List.forall_mem_nil _
  · refine SameUnless.after (debugged _) fun _ => ?_
    have hrun := runRows_sameUnless sql db.procedures db.table options (width_of_checkArity hwidths)
    unfold Driver.transacted
    split
    · refine SameUnless.inTransaction _ ?_ ?_ hrun
      · intro q
        refine driver.ask_triple fun s answer db hprobe hs => ?_
        cases q <;> cases hprobe <;> exact hs
      · intro c hc hne
        exact perform_keeps hc hne
    · exact hrun

end

theorem Totals.not_exceeds {db : Memory} {sql : String} {rows : List (List Value)} {total : UInt64}
    (h : Totals db sql rows total)
    (hfits : ∀ p, db.procedures.get? sql = some p → p.Fits db.table rows) :
    ¬ ∃ p, db.procedures.get? sql = some p ∧ p.Exceeds db.table rows := by
  rintro ⟨p, hp, hexceeds⟩
  obtain ⟨counts, hcounts⟩ : ∃ counts, p.reports db.table rows = .ok counts := by
    rcases h with ⟨rfl, -⟩ | ⟨q, counts, hq, hcounts, -⟩
    · exact ⟨[], rfl⟩
    · obtain rfl := Option.some.inj (hp.symm.trans hq)
      exact ⟨counts, hcounts⟩
  obtain ⟨count, hmem, hwide⟩ := hexceeds counts hcounts
  exact hwide (hfits p hp counts hcounts count hmem)

/-- In 32 bits rows come to the same as a batch and one by one, if every count that is reported for
them fits; where one does not, only the batch succeeds, and one by one they fail for that count. -/
theorem update_batch_narrow (s : Session Memory) (sql : String) (rows : List (List Value))
    (options : Options) :
    let batched :=
      (driver.executeUpdate sql rows { options with large := false, batch := true }).run s
    let single :=
      (driver.executeUpdate sql rows { options with large := false, batch := false }).run s
    (∀ total, single.1 = .ok total ↔ batched.1 = .ok total ∧
      ∀ p, s.database.procedures.get? sql = some p → p.Fits s.database.table rows) ∧
    (∀ total, single.1 = .ok total → Twins s.statements batched.2 single.2) ∧
    ∀ total, batched.1 = .ok total →
      single.1 = .ok total ∨ single.1 = .error (.ofFailure overflow) := by
  intro batched single
  obtain ⟨hresult, htwins, -⟩ := update_batch_single s sql rows options
  have htotals := executeUpdate_total s.database sql rows
    { options with large := true, batch := false } rfl rfl s ⟨rfl, rfl⟩
  have hsingle := executeUpdate_sameUnless s.database sql rows { options with batch := false } s
    ⟨rfl, rfl⟩
  have hbatched := executeUpdate_sameUnless s.database sql rows { options with batch := true } s
    ⟨rfl, rfl⟩
  generalize (driver.executeUpdate sql rows { options with large := true, batch := false }).run s =
    single' at hresult htwins htotals hsingle
  generalize (driver.executeUpdate sql rows { options with large := true, batch := true }).run s =
    batched' at hresult htwins hbatched
  change single = single' ∧ _ ∨ single.1 = _ ∧ _ at hsingle
  change batched = batched' ∧ _ ∨ batched.1 = _ ∧ _ at hbatched
  have htotal (total : UInt64) (h : single'.1 = .ok total) : Totals s.database sql rows total := by
    rw [h] at htotals
    exact htotals
  -- one by one in 32 bits is as in 64, and then so is the batch
  have hboth (total : UInt64) (h : single.1 = .ok total) : single = single' ∧ batched = batched' ∧
      ∀ p, s.database.procedures.get? sql = some p → p.Fits s.database.table rows := by
    rcases hsingle with ⟨rfl, hfits⟩ | ⟨hfails, -⟩
    · rcases hbatched with ⟨rfl, -⟩ | ⟨-, hexceeds⟩
      · exact ⟨rfl, rfl, hfits total h rfl⟩
      · exact absurd hexceeds ((htotal total h).not_exceeds (hfits total h rfl))
    · rw [hfails] at h
      cases h
  have hone (total : UInt64) (h : batched.1 = .ok total) :
      single'.1 = .ok total ∧ (single = single' ∨ single.1 = .error (.ofFailure overflow) ∧
        ∃ p, s.database.procedures.get? sql = some p ∧ p.Exceeds s.database.table rows) := by
    rcases hbatched with ⟨rfl, -⟩ | ⟨hfails, -⟩
    · exact ⟨hresult.symm.trans h, hsingle.imp_left And.left⟩
    · rw [hfails] at h
      cases h
  refine ⟨fun total => ⟨fun h => ?_, fun ⟨h, hfits⟩ => ?_⟩, fun total h => ?_, fun total h => ?_⟩
  · obtain ⟨rfl, rfl, hfits⟩ := hboth total h
    exact ⟨hresult.trans h, hfits⟩
  · obtain ⟨h', rfl | ⟨-, hexceeds⟩⟩ := hone total h
    · exact h'
    · exact absurd hexceeds ((htotal total h').not_exceeds hfits)
  · obtain ⟨rfl, rfl, -⟩ := hboth total h
    exact htwins
  · obtain ⟨h', rfl | ⟨hfails, -⟩⟩ := hone total h
    · exact .inl h'
    · exact .inr hfails

/-- Two counts of 2147483648 are added up as a batch, and one by one the first is a failure. -/
theorem wide_count_in_batch :
    let s : Session Memory :=
      { database := Memory.define {} "INSERT" (.fixed (.ok { count := 2147483648 })) }
    let run (batch : Bool) := (driver.executeUpdate "INSERT" [[.text "a"], [.text "b"]]
      { large := false, batch }).run s
    (run true).1 = .ok 4294967296 ∧ (run false).1 = .error (.ofFailure overflow) := by
  decide +kernel

end Memory

end SqlGateway.Database
