import Mathlib.Algebra.GroupWithZero.Nat
import SqlGateway.Execution.Query
import SqlGateway.Proofs.Act.Triple

/-!
# Rules for executions

What an execution does to a condition, from what each of its calls does to it.
-/

namespace SqlGateway

variable {σ α β : Type} {d : Driver σ} {P E : Session σ → Prop}

/-! ## What calls are made on -/

/-- What a call can be made on. -/
inductive Handle where
  | statement (i : StatementId)
  | cursor (c : CursorId)
  deriving DecidableEq, Repr

namespace Call

def handle? : Call → Option Handle
  | .bind i _ _ | .registerOut i _ _ | .setTimeout i _ | .setPoolable i _
  | .setEscapeProcessing i _ | .setFetchSize i _ | .setMaxRows i _ | .execute i
  | .executeUpdate i | .executeLargeUpdate i | .addBatch i | .executeBatch i
  | .executeLargeBatch i | .resultCursor i _ | .moreResults i | .generatedKeys i _
  | .outValue i _ _ | .closeStatement i => some (.statement i)
  | .columns c | .next c | .getObject c _ | .getBinaryStream c _ | .getCharacterStream c _
  | .closeCursor c => some (.cursor c)
  | _ => none

/-- Whether a call opens or closes a statement or a cursor. -/
def movesHandles : Call → Bool
  | .prepare .. | .resultCursor .. | .generatedKeys .. | .closeStatement _ | .closeCursor _ => true
  | _ => false

/-- Whether a call is about transactions or their settings. -/
def isTransactional : Call → Bool
  | .autoCommit | .setAutoCommit _ | .isolation | .setIsolation _ | .setSavepoint | .rollbackTo _
  | .releaseSavepoint _ | .commit => true
  | _ => false

def isOption : Call → Bool
  | .setTimeout .. | .setPoolable .. | .setEscapeProcessing .. | .setFetchSize ..
  | .setMaxRows .. =>
    true
  | _ => false

/-- The call is made on a handle and leaves open what is open. -/
def WorksOn (c : Call) (h : Handle) : Prop :=
  c.handle? = some h ∧ c.movesHandles = false

theorem handle?_of_isTransactional {c : Call} (hc : c.isTransactional = true) :
    c.handle? = none ∧ c.movesHandles = false := by
  cases c <;> first | exact ⟨rfl, rfl⟩ | cases hc

theorem WorksOn.not_isTransactional {c : Call} {h : Handle} (hc : c.WorksOn h) :
    c.isTransactional = false := by
  obtain ⟨hh, -⟩ := hc
  cases c <;> first | rfl | cases hh

end Call

/-! ## Options -/

theorem Driver.applyOptions_eq (d : Driver σ) (i : StatementId) (options : Options) :
    d.applyOptions i options = (do
      forM options.timeout fun timeout =>
        tolerating "statement timeout" (d.perform (.setTimeout i timeout))
      tolerating "poolable hint" (d.perform (.setPoolable i options.poolable))
      tolerating "escape processing" (d.perform (.setEscapeProcessing i options.escapeProcessing))
      forM options.fetchSize fun rows => tolerating "fetch size" (d.perform (.setFetchSize i rows))
      forM options.maxRows fun rows => tolerating "max rows" (d.perform (.setMaxRows i rows))) := by
  obtain ⟨timeout, _, _, _, _, _, fetchSize, maxRows⟩ := options
  unfold Driver.applyOptions
  cases timeout <;> cases fetchSize <;> cases maxRows <;>
    simp only [Option.forM_none, Option.forM_some, pure_bind]

section

variable (hlog : ∀ s l, P s → P { s with log := l })
include hlog

theorem Keeps.debug (text : String) : Triple P (Session.debug text) fun _ => P :=
  fun s hs => hlog s _ hs

theorem Keeps.tolerating (setting : String) {act : Act σ Failure Unit} (h : Keeps P act) :
    Keeps P (SqlGateway.tolerating setting act) := by
  refine Secures.lift_run h (fun _ => Keeps.pure) fun f => ?_
  dsimp only
  split
  · exact Secures.lift (Keeps.debug hlog _)
  · exact Keeps.throw

theorem Keeps.applyOptions {i : StatementId} (options : Options)
    (hcall : ∀ c : Call, c.isOption = true → c.WorksOn (.statement i) → Keeps P (d.perform c)) :
    Keeps P (d.applyOptions i options) := by
  rw [Driver.applyOptions_eq]
  refine Secures.bind (Keeps.forM (fun timeout => ?timeout) _) fun _ => ?_
  case timeout => exact Keeps.tolerating hlog _ (hcall _ rfl ⟨rfl, rfl⟩)
  refine Secures.bind (Keeps.tolerating hlog _ (hcall _ rfl ⟨rfl, rfl⟩)) fun _ => ?_
  refine Secures.bind (Keeps.tolerating hlog _ (hcall _ rfl ⟨rfl, rfl⟩)) fun _ => ?_
  refine Secures.bind (Keeps.forM (fun rows => ?fetchSize) _) fun _ => ?_
  case fetchSize => exact Keeps.tolerating hlog _ (hcall _ rfl ⟨rfl, rfl⟩)
  exact Keeps.forM (fun rows => Keeps.tolerating hlog _ (hcall _ rfl ⟨rfl, rfl⟩)) _

end

/-! ## Making statements and cursors -/

section

variable {sql : String} {kind : StatementKind} {keys : GeneratedKeys} {i : StatementId}

theorem Driver.prepare_secures {Q : StatementId → Session σ → Prop}
    (hcall : ∀ s₀, Secures (fun s => s₀ = s ∧ P s)
      (d.perform (.prepare ⟨s₀.statements + 1⟩ sql kind keys))
      (fun _ s => Q ⟨s₀.statements + 1⟩ { s with statements := s₀.statements + 1 }) E) :
    Secures P (d.prepare sql kind keys) Q E := by
  refine Secures.bind (Secures.getState (Q := fun s₀ s => s₀ = s ∧ P s) fun s hs => ⟨rfl, hs⟩)
    fun s₀ => ?_
  refine Secures.bind (hcall s₀) fun _ => ?_
  exact Secures.bind (Secures.modifyState (Q := fun _ => Q _) fun _ hs => hs) fun _ =>
    Secures.pure fun _ hs => hs

theorem Driver.openCursor_secures {Q : Option CursorId → Session σ → Prop}
    (hcall : ∀ s₀, Secures (fun s => s₀ = s ∧ P s)
      (d.perform (.resultCursor i ⟨s₀.cursors + 1⟩))
      (fun opened s => match opened with
        | true => Q (some ⟨s₀.cursors + 1⟩) { s with cursors := s₀.cursors + 1 }
        | false => Q none s) E) :
    Secures P (d.openCursor i) Q E := by
  refine Secures.bind (Secures.getState (Q := fun s₀ s => s₀ = s ∧ P s) fun s hs => ⟨rfl, hs⟩)
    fun s₀ => ?_
  refine Secures.bind (hcall s₀) fun opened => ?_
  cases opened with
  | true =>
      exact Secures.bind (Secures.modifyState (Q := fun _ => Q _) fun _ hs => hs) fun _ =>
        Secures.pure fun _ hs => hs
  | false => exact Secures.pure fun _ hs => hs

theorem Driver.openKeys_secures {Q : CursorId → Session σ → Prop}
    (hcall : ∀ s₀, Secures (fun s => s₀ = s ∧ P s)
      (d.perform (.generatedKeys i ⟨s₀.cursors + 1⟩))
      (fun _ s => Q ⟨s₀.cursors + 1⟩ { s with cursors := s₀.cursors + 1 }) E) :
    Secures P (d.openKeys i) Q E := by
  refine Secures.bind (Secures.getState (Q := fun s₀ s => s₀ = s ∧ P s) fun s hs => ⟨rfl, hs⟩)
    fun s₀ => ?_
  refine Secures.bind (hcall s₀) fun _ => ?_
  exact Secures.bind (Secures.modifyState (Q := fun _ => Q _) fun _ hs => hs) fun _ =>
    Secures.pure fun _ hs => hs

end

section

variable (hcount : ∀ s n m, P s → P { s with statements := n, cursors := m })
include hcount

theorem Keeps.prepare {sql : String} {kind : StatementKind} {keys : GeneratedKeys}
    (hcall : ∀ i, Keeps P (d.perform (.prepare i sql kind keys))) :
    Keeps P (d.prepare sql kind keys) := by
  refine Driver.prepare_secures fun s₀ => ?_
  exact Secures.weaken (Secures.strengthen (hcall _) fun _ hs => hs.2)
    (fun _ s hs => hcount s _ s.cursors hs) fun _ hs => hs

theorem Keeps.openCursor {i : StatementId}
    (hcall : ∀ k, Keeps P (d.perform (.resultCursor i k))) : Keeps P (d.openCursor i) := by
  refine Driver.openCursor_secures fun s₀ => ?_
  refine Secures.weaken (Secures.strengthen (hcall _) fun _ hs => hs.2) (fun opened s hs => ?_)
    fun _ hs => hs
  cases opened with
  | true => exact hcount s s.statements _ hs
  | false => exact hs

theorem Keeps.openKeys {i : StatementId}
    (hcall : ∀ k, Keeps P (d.perform (.generatedKeys i k))) : Keeps P (d.openKeys i) := by
  refine Driver.openKeys_secures fun s₀ => ?_
  exact Secures.weaken (Secures.strengthen (hcall _) fun _ hs => hs.2)
    (fun _ s hs => hcount s s.statements _ hs) fun _ hs => hs

end

/-! ## Rows -/

section

variable {k : CursorId} (hcall : ∀ c : Call, c.WorksOn (.cursor k) → Keeps P (d.perform c))
include hcall

theorem Keeps.readRow (reading : CellReading Error α) : Keeps P (d.readRow k reading) := by
  refine Secures.of_run (Triple.reading (fun r => ?_) reading.run)
  cases r with
  | object index => exact hcall _ ⟨rfl, rfl⟩
  | binaryStream index => exact hcall _ ⟨rfl, rfl⟩
  | characterStream index => exact hcall _ ⟨rfl, rfl⟩

theorem Keeps.keyRow (row : Option Row) : Keeps P (d.keyRow k row) := by
  cases row with
  | some row => exact Keeps.pure
  | none => exact Secures.bind (hcall _ ⟨rfl, rfl⟩) fun columns => Keeps.pure

theorem Keeps.drainRows (mapper : RowMapper α) (row : Option Row) :
    Triple P (d.drainRows mapper k row) fun _ => P := by
  intro s hs
  have next := (hcall (.next k) ⟨rfl, rfl⟩).run
  fun_induction d.drainRows mapper k row s with
  | case1 row s f s' hn => exact next.of_run hs hn
  | case2 row s s' hn => exact next.of_run hs hn
  | case3 row s s' hn f s'' hr =>
      exact (Keeps.keyRow hcall row).run.of_run (next.of_run hs hn) hr
  | case4 row s s' hn row' s'' hr e s''' hm =>
      have hs := (Keeps.keyRow hcall row).run.of_run (next.of_run hs hn) hr
      exact (Keeps.readRow hcall (mapper row')).run.of_run hs hm
  | case5 row s s' hn row' s'' hr a s''' hm rest s4 hrest ih =>
      have hs := (Keeps.keyRow hcall row).run.of_run (next.of_run hs hn) hr
      have hs := ih ((Keeps.readRow hcall (mapper row')).run.of_run hs hm)
      rwa [hrest] at hs

end

/-- A cursor that is drained is closed, whatever has become of its rows. `M` and `R` are told
whether everything has succeeded so far. -/
theorem Driver.drain_secures {mapper : RowMapper α} {k : CursorId} {M R : Bool → Session σ → Prop}
    (hrows : Triple P (d.drainRows mapper k none) fun rows => M rows.toBool)
    (hclose : ∀ ok, Secures (M ok) (d.perform (.closeCursor k)) (fun _ => R ok) (R false)) :
    Secures P (d.drain mapper k) (fun _ => R true) (R false) :=
  Secures.both (f := id) (Triple.weaken hrows fun rows _ hs => by cases rows <;> exact hs)
    fun ok => (hclose ok).surfaced

/-! ## Statements -/

/-- A guard that is given up where an act fails. -/
theorem Driver.dropOnError_secures {guard : StatementGuard} {act : Act σ Error α}
    {Q : α → Session σ → Prop} {F : Session σ → Prop} (h : Secures P act Q F)
    (hdrop : Triple F (d.dropGuard guard) fun _ => E) :
    Secures P (d.dropOnError guard act) Q E := by
  refine Secures.lift_run h (fun a => Secures.pure fun _ hs => hs) fun e => ?_
  exact Secures.bind (Secures.lift hdrop) fun _ => Keeps.throw

theorem Driver.guardStatement_secures {sql : String} {kind : StatementKind} {keys : GeneratedKeys}
    {A : Bool → Session σ → Prop} {R : StatementId → Session σ → Prop}
    (hask : Triple P (d.ask .isClosed) A) (hclosed : ∀ s, A true s → E s)
    (hprepare : Secures (A false) (d.prepare sql kind keys) R E) :
    Secures P (d.guardStatement sql kind keys)
      (fun guard s => guard.phase = .prepared ∧ R guard.statement s) E := by
  refine Secures.bind (Secures.lift hask) fun closed => ?_
  cases closed with
  | true => exact Secures.throw hclosed
  | false =>
      refine Secures.bind hprepare.surfaced fun i => ?_
      exact Secures.pure fun _ hs => ⟨rfl, hs⟩

/-- A statement goes from being prepared (`R`) by way of its settings (`C`) to its results (`W`); it
is given up where any of this fails (`F`). -/
theorem Driver.runStatement_secures {sql : String} {kind : StatementKind} {keys : GeneratedKeys}
    {configure : StatementId → Act σ Error Unit} {action : StatementId → Act σ Error α}
    {A : Bool → Session σ → Prop} {R C F : StatementId → Session σ → Prop}
    {W : StatementId → α → Session σ → Prop}
    (hask : Triple P (d.ask .isClosed) A) (hclosed : ∀ s, A true s → E s)
    (hprepare : Secures (A false) (d.prepare sql kind keys) R E)
    (hconfigure : ∀ i, Secures (R i) (configure i) (fun _ => C i) (F i))
    (haction : ∀ i, Secures (C i) (action i) (W i) (F i))
    (hdrop : ∀ guard : StatementGuard, Triple (F guard.statement) (d.dropGuard guard) fun _ => E) :
    Secures P (d.runStatement sql kind keys configure action)
      (fun r s => r.2.phase = .succeeded ∧ W r.2.statement r.1 s) E := by
  refine Secures.bind (Driver.guardStatement_secures hask hclosed hprepare) fun guard => ?_
  obtain ⟨i, phase⟩ := guard
  refine Secures.assuming fun hp => ?_
  obtain rfl : phase = .prepared := hp
  refine Secures.bind (Driver.dropOnError_secures (hconfigure i) (hdrop ⟨i, .prepared⟩)) fun _ => ?_
  -- the guard that the execution leaves says how it went
  have run : Triple (C i) (StatementGuard.run ⟨i, .prepared⟩ action) fun r s =>
      r.2.statement = i ∧
        Settled (fun a s => r.2.phase = .succeeded ∧ W i a s) (F i) r.1 s := by
    refine Triple.bind (haction i) fun outcome => ?_
    cases outcome with
    | ok a => exact fun _ hs => ⟨rfl, rfl, hs⟩
    | error e => exact fun _ hs => ⟨rfl, hs⟩
  refine Secures.bind (Secures.lift run) fun r => ?_
  obtain ⟨outcome, guard⟩ := r
  refine Secures.assuming fun hi => ?_
  obtain rfl : guard.statement = i := hi
  refine Secures.bind (Driver.dropOnError_secures (Q := fun a s => guard.phase = .succeeded ∧
    W guard.statement a s) (F := F guard.statement) ?_ (hdrop guard)) fun a =>
      Secures.pure fun _ hs => hs
  cases outcome with
  | ok a => exact Secures.pure fun _ hs => hs
  | error e => exact Secures.throw fun _ hs => hs

/-! ## Updates -/

section

variable {i : StatementId} {rows : List (List Value)} {options : Options}

section

variable (hbind : ∀ position value, Secures P (d.perform (.bind i position value)) (fun _ => P) E)
include hbind

theorem Driver.bindFrom_secures (position : Nat) (values : List Value) :
    Secures P (d.bindFrom i position values) (fun _ => P) E := by
  induction values generalizing position with
  | nil => exact Secures.pure fun _ hs => hs
  | cons value values ih => exact Secures.bind (hbind position value) fun _ => ih (position + 1)

theorem Driver.addRows_secures (hadd : Secures P (d.perform (.addBatch i)) (fun _ => P) E)
    (rows : List (List Value)) : Secures P (d.addRows i rows) (fun _ => P) E := by
  induction rows with
  | nil => exact Secures.pure fun _ hs => hs
  | cons row rows ih =>
      refine Secures.bind (Driver.bindFrom_secures hbind 1 row) fun _ => ?_
      exact Secures.bind hadd fun _ => ih

end

theorem Driver.useBatch_triple (hask : Triple P (d.ask .supportsBatch) fun _ => P) :
    Triple P (d.useBatch rows options) fun _ => P := by
  unfold Driver.useBatch
  split
  · exact hask
  · exact Triple.pure fun _ hs => hs

/-- What is known of a statement (`R`) is kept up to its rows. What comes of them (`W`) comes of the
update, up to the closing of the statement. -/
theorem Driver.runUpdate_yields {sql : String} {keys : GeneratedKeys}
    {action : StatementId → Bool → Act σ Error α} {R : StatementId → Session σ → Prop}
    {W : StatementId → α → Session σ → Prop} {Q : α → Session σ → Prop}
    (hask : Triple P (d.ask .isClosed) fun _ => P)
    (hprepare : Yields P (d.prepare sql .dml keys) R)
    (hoptions : ∀ i, Keeps (R i) (d.applyOptions i options))
    (hbatch : ∀ i, Triple (R i) (d.ask .supportsBatch) fun _ => R i)
    (haction : ∀ i batch, Yields (R i) (action i batch) (W i))
    (hclose : ∀ i a, Yields (W i a) (d.perform (.closeStatement i)) fun _ => Q a) :
    Yields P (d.runUpdate sql keys rows options action) Q := by
  refine Secures.bind (Driver.runStatement_secures (A := fun _ => P) (C := R) (F := fun _ _ => True)
    (W := W) hask (fun _ _ => trivial) hprepare (fun i => (hoptions i).yields) (fun i => ?_)
    fun _ _ _ => trivial) fun r => ?_
  · exact Secures.bind (Secures.lift (Driver.useBatch_triple (hbatch i))) (haction i)
  · obtain ⟨a, guard⟩ := r
    refine Secures.assuming fun _ => ?_
    exact Secures.bind (hclose guard.statement a).surfaced fun _ => Secures.pure fun _ hs => hs

end

theorem checkArity_of_width {rows : List (List Value)} {width : Nat}
    (h : ∀ row ∈ rows, row.length = width) :
    checkArity rows = .ok () := by
  have hnone : rows.findIdx? (·.length != (rows.head?.map List.length).getD 0) = none := by
    refine List.findIdx?_eq_none_iff.mpr fun row hrow => ?_
    cases rows with
    | nil => cases hrow
    | cons first rest =>
        have hrow := h row hrow
        have hfirst := h first List.mem_cons_self
        simp [hrow, hfirst]
  unfold checkArity
  dsimp only
  rw [hnone]

theorem width_of_checkArity {rows : List (List Value)} (h : checkArity rows = .ok ()) :
    ∀ row ∈ rows, row.length = (rows.head?.map List.length).getD 0 := by
  unfold checkArity at h
  dsimp only at h
  split at h
  · cases h
  · rename_i hnone
    intro row hrow
    simpa using List.findIdx?_eq_none_iff.mp hnone row hrow

/-- Nothing is done with several rows before their widths were compared. -/
theorem Driver.checked_secures {rows : List (List Value)} {skip act : Act σ Error α}
    {Q : α → Session σ → Prop} (hlen : 1 < rows.length)
    (hok : checkArity rows = .ok () → Secures P act Q E)
    (herror : ∀ e, checkArity rows = .error e → ∀ s, P s → E s) :
    Secures P (MonadExcept.ofExcept (checkArity rows) >>= fun _ : Unit =>
      if rows.isEmpty = true then skip else act) Q E := by
  have hne : ¬ rows.isEmpty = true := by
    simpa using List.ne_nil_of_length_pos (Nat.zero_lt_of_lt hlen)
  rw [if_neg hne]
  cases hr : checkArity rows with
  | ok u => exact hok hr
  | error e => exact herror e hr

/-- The rows that were changed, by what was reported. A negative count says nothing. -/
def changed (counts : List Int64) : Nat :=
  (counts.map (·.toInt.toNat)).sum

theorem changed_cons (count : Int64) (counts : List Int64) :
    changed (count :: counts) = count.toInt.toNat + changed counts :=
  rfl

theorem changed_le (counts : List Int64) : changed counts ≤ counts.length * (2 ^ 63 - 1) := by
  induction counts with
  | nil => exact Nat.zero_le _
  | cons count counts ih =>
      have hcount := count.toInt_lt
      rw [changed_cons, List.length_cons]
      omega

theorem toNat_add_countRows (total : UInt64) (count : Int64) :
    (total + countRows count).toNat = (total.toNat + count.toInt.toNat) % 2 ^ 64 := by
  rw [UInt64.toNat_add, countRows, UInt64.toNat_ofNat', Nat.add_mod_mod]

theorem toNat_foldl_countRows (total : UInt64) (counts : List Int64) :
    (counts.foldl (fun total count => total + countRows count) total).toNat =
      (total.toNat + changed counts) % 2 ^ 64 := by
  induction counts generalizing total with
  | nil => exact (Nat.mod_eq_of_lt total.toNat_lt).symm
  | cons count counts ih =>
      rw [List.foldl_cons, ih, toNat_add_countRows, Nat.mod_add_mod, changed_cons, Nat.add_assoc]

/-- What the caller makes of the keys comes after everything else. -/
theorem Driver.executeUpdateWithKeys_map (d : Driver σ) (sql : String) (rows : List (List Value))
    (options : Options) (keys : GeneratedKeys) (mapper : RowMapper α) (aggregate : List α → β) :
    d.executeUpdateWithKeys sql rows options keys mapper aggregate =
      aggregate <$> d.executeUpdateWithKeys sql rows options keys mapper id := by
  unfold Driver.executeUpdateWithKeys
  split <;> simp only [map_bind, map_pure, id]

theorem Driver.releaseGuard_secures (guard : StatementGuard) (hp : guard.phase = .succeeded) :
    Secures P (d.releaseGuard guard) (fun i s => i = guard.statement ∧ P s) E := by
  unfold Driver.releaseGuard
  rw [if_pos hp]
  exact Secures.pure fun _ hs => ⟨rfl, hs⟩

end SqlGateway
