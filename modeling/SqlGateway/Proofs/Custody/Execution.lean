import SqlGateway.Execution.Query
import SqlGateway.Proofs.Custody.Cursor

/-!
# Custody through executions

A statement that is prepared for an execution is open under its guard. On every way out it is
closed, or else it is handed on with what was opened on it.
-/

namespace SqlGateway

theorem Driver.bindParameter_eq {σ : Type} (d : Driver σ) (i : StatementId) (position : Nat)
    (param : Parameter) :
    d.bindParameter i position param = (do
      forM param.value? fun value => d.perform (.bind i position value)
      forM param.outType? fun type => d.perform (.registerOut i position type)) := by
  unfold Driver.bindParameter
  cases param.value? <;> cases param.outType? <;>
    simp only [Option.forM_none, Option.forM_some, pure_bind]

namespace Custody

variable {σ τ α β : Type} {d : Driver σ} {I : List Holding → Session σ → Prop} (hI : Custody d I)
include hI

/-! ## Guards -/

theorem applyOptions (i : StatementId) (options : Options) (L : List Holding) :
    Keeps (I (⟨i, none⟩ :: L)) (d.applyOptions i options) :=
  Keeps.applyOptions (fun _ l hs => hI.log l hs) options fun _ _ hc => hI.workStatement hc none L

theorem closeGuard (guard : StatementGuard) (L : List Holding) :
    Secures (I (⟨guard.statement, none⟩ :: L)) (d.closeGuard guard) (fun _ => I L) (I L) :=
  (hI.closeStatement _ L).surfaced

/-- What the action opens is handed on with the statement; if it fails the statement is closed. -/
theorem runStatement {sql : String} {kind : StatementKind} {keys : GeneratedKeys}
    {configure : StatementId → Act σ Error Unit} {action : StatementId → Act σ Error α}
    (opened : α → Option CursorId) {L : List Holding}
    (hc : ∀ i, Keeps (I (⟨i, none⟩ :: L)) (configure i))
    (ha : ∀ i, Secures (I (⟨i, none⟩ :: L)) (action i) (fun a => I (⟨i, opened a⟩ :: L))
      (I (⟨i, none⟩ :: L))) :
    Secures (I L) (d.runStatement sql kind keys configure action)
      (fun r s => r.2.phase = .succeeded ∧ I (⟨r.2.statement, opened r.1⟩ :: L) s) (I L) :=
  Driver.runStatement_secures (F := fun i => I (⟨i, none⟩ :: L)) (hI.ask .isClosed L)
    (fun _ hs => hs) (hI.prepare sql kind keys L) hc ha
    fun guard => hI.closeStatementWarned guard.statement _ L

/-! ## Updates -/

theorem bindFrom (i : StatementId) (position : Nat) (values : List Value) (L : List Holding) :
    Keeps (I (⟨i, none⟩ :: L)) (d.bindFrom i position values) :=
  Driver.bindFrom_secures (fun _ _ => hI.workStatement ⟨rfl, rfl⟩ none L) position values

theorem bindValues (i : StatementId) (values : List Value) (L : List Holding) :
    Keeps (I (⟨i, none⟩ :: L)) (d.bindValues i values) :=
  hI.bindFrom i 1 values L

theorem addRows (i : StatementId) (rows : List (List Value)) (L : List Holding) :
    Keeps (I (⟨i, none⟩ :: L)) (d.addRows i rows) :=
  Driver.addRows_secures (fun _ _ => hI.workStatement ⟨rfl, rfl⟩ none L)
    (hI.workStatement ⟨rfl, rfl⟩ none L) rows

theorem executeRow (i : StatementId) (large : Bool) (L : List Holding) :
    Keeps (I (⟨i, none⟩ :: L)) (d.executeRow i large) := by
  cases large with
  | true => exact hI.workStatement ⟨rfl, rfl⟩ none L
  | false => exact Keeps.map (hI.workStatement ⟨rfl, rfl⟩ none L)

theorem countEach (i : StatementId) (large : Bool) (total : UInt64) (rows : List (List Value))
    (L : List Holding) : Keeps (I (⟨i, none⟩ :: L)) (d.countEach i large total rows) := by
  induction rows generalizing total with
  | nil => exact Keeps.pure
  | cons row rows ih =>
      refine Secures.bind (hI.bindValues i row L) fun _ => ?_
      exact Secures.bind (hI.executeRow i large L) fun count => ih _

theorem runRows (i : StatementId) (rows : List (List Value)) (large batch : Bool)
    (L : List Holding) : Keeps (I (⟨i, none⟩ :: L)) (d.runRows i rows large batch) := by
  cases batch with
  | true =>
      refine Secures.bind (hI.addRows i rows L) fun _ => ?_
      exact Secures.bind (hI.workStatement ⟨rfl, rfl⟩ none L) fun _ => Keeps.pure
  | false => exact hI.countEach i large 0 rows L

theorem readKeys (i : StatementId) (mapper : RowMapper α) (L : List Holding) :
    Keeps (I (⟨i, none⟩ :: L)) (d.readKeys i mapper) :=
  Secures.bind (hI.openKeys i L).surfaced fun k => hI.drain i mapper k L

theorem keysEach (i : StatementId) (large : Bool) (mapper : RowMapper α)
    (rows : List (List Value)) (L : List Holding) :
    Keeps (I (⟨i, none⟩ :: L)) (d.keysEach i large mapper rows) := by
  induction rows with
  | nil => exact Keeps.pure
  | cons row rows ih =>
      refine Secures.bind (hI.bindValues i row L).surfaced fun _ => ?_
      refine Secures.bind (Keeps.map (hI.executeRow i large L).surfaced) fun _ => ?_
      refine Secures.bind (hI.readKeys i mapper L) fun keys => ?_
      exact Secures.bind ih fun rest => Keeps.pure

theorem runKeys (i : StatementId) (rows : List (List Value)) (large batch : Bool)
    (mapper : RowMapper α) (L : List Holding) :
    Keeps (I (⟨i, none⟩ :: L)) (d.runKeys i rows large batch mapper) := by
  cases batch with
  | true =>
      have execute := (hI.workStatement (c := .executeLargeBatch i) ⟨rfl, rfl⟩ none L).surfaced
      refine Secures.bind (hI.addRows i rows L).surfaced fun _ => ?_
      refine Secures.bind (Keeps.map execute) fun _ => ?_
      exact hI.readKeys i mapper L
  | false => exact hI.keysEach i large mapper rows L

theorem useBatch (rows : List (List Value)) (options : Options) (L : List Holding) :
    Triple (I L) (d.useBatch rows options) fun _ => I L :=
  Driver.useBatch_triple (hI.ask .supportsBatch L)

theorem runUpdate {sql : String} {keys : GeneratedKeys} {rows : List (List Value)}
    {options : Options} {action : StatementId → Bool → Act σ Error α} {L : List Holding}
    (h : ∀ i batch, Keeps (I (⟨i, none⟩ :: L)) (action i batch)) :
    Keeps (I L) (d.runUpdate sql keys rows options action) := by
  refine Secures.bind (hI.runStatement (fun _ => none) (fun i => hI.applyOptions i options L)
    fun i => Secures.bind (Secures.lift (hI.useBatch rows options _)) (h i)) fun r => ?_
  obtain ⟨a, guard⟩ := r
  refine Secures.assuming fun _ => ?_
  exact Secures.bind (hI.closeGuard guard L) fun _ => Keeps.pure

/-! ## Queries and calls -/

theorem executeRows (i : StatementId) (values : List Value) (L : List Holding) :
    Secures (I (⟨i, none⟩ :: L)) (d.executeRows i values) (fun c => I (⟨i, c⟩ :: L))
      (I (⟨i, none⟩ :: L)) := by
  refine Secures.bind (hI.bindValues i values L) fun _ => ?_
  refine Secures.bind (hI.workStatement (c := .execute i) ⟨rfl, rfl⟩ none L) fun hasRows => ?_
  cases hasRows with
  | true => exact hI.openCursor i L
  | false => exact Keeps.pure

/-- A query hands its statement and what was opened on it to the cursor that it gives. -/
theorem executeQuery (sql : String) (values : List Value) (options : Options)
    (L : List Holding) :
    Secures (I L) (d.executeQuery sql values options : Act σ Error (ResultCursor τ))
      (fun cursor s => cursor.Sound ∧ I (cursor.holdings ++ L) s) (I L) := by
  refine Secures.bind (Secures.lift (hI.debug _ L)) fun _ => ?_
  refine Secures.bind (hI.runStatement id (fun i => hI.applyOptions i options L)
    fun i => (hI.executeRows i values L).surfaced) fun r => ?_
  obtain ⟨current, guard⟩ := r
  refine Secures.assuming fun hp => ?_
  refine Secures.bind (Driver.releaseGuard_secures guard hp) fun i => ?_
  refine Secures.assuming fun hi => ?_
  obtain rfl := hi
  exact Secures.pure fun s hs => ⟨(ResultCursor.on_ofStatement _ _).sound, hs⟩

theorem bindParameter (i : StatementId) (position : Nat) (param : Parameter)
    (L : List Holding) : Keeps (I (⟨i, none⟩ :: L)) (d.bindParameter i position param) := by
  rw [Driver.bindParameter_eq]
  refine Secures.bind (Keeps.forM (fun value => ?_) _) fun _ => Keeps.forM (fun type => ?_) _
  · exact hI.workStatement ⟨rfl, rfl⟩ none L
  · exact hI.workStatement ⟨rfl, rfl⟩ none L

theorem bindParametersFrom (i : StatementId) (position : Nat) (params : List Parameter)
    (L : List Holding) : Keeps (I (⟨i, none⟩ :: L)) (d.bindParametersFrom i position params) := by
  induction params generalizing position with
  | nil => exact Keeps.pure
  | cons param params ih =>
      refine Secures.bind (hI.bindParameter i position param L) fun _ => ?_
      refine Secures.bind (ih (position + 1)) fun slots => ?_
      split <;> exact Keeps.pure

theorem executeCallStatement (sql : String) (params : List Parameter) (options : Options)
    (L : List Holding) :
    Secures (I L) (d.executeCallStatement sql params options)
      (fun r s => r.2.phase = .succeeded ∧ I (⟨r.2.statement, none⟩ :: L) s) (I L) := by
  refine Secures.bind (Secures.lift (hI.debug _ L)) fun _ => ?_
  refine hI.runStatement (fun _ => none) (fun i => hI.applyOptions i options L) fun i => ?_
  refine Secures.surfaced (Secures.bind (hI.bindParametersFrom i 1 params L) fun slots => ?_)
  refine Secures.bind (hI.workStatement (c := .execute i) ⟨rfl, rfl⟩ none L) fun hasRows => ?_
  exact Keeps.pure

theorem openCallRows (i : StatementId) (hasRows : Bool) (L : List Holding) :
    Secures (I (⟨i, none⟩ :: L)) (d.openCallRows i hasRows) (fun c => I (⟨i, c⟩ :: L))
      (I L) := by
  cases hasRows with
  | true =>
      refine Secures.lift_run (hI.openCursor i L) (fun c => Keeps.pure) fun f => ?_
      exact Secures.bind (Secures.lift (hI.closeStatementWarned i _ L)) fun _ =>
        Keeps.throw
  | false => exact Keeps.pure

theorem executeCall (sql : String) (params : List Parameter) (options : Options)
    (handler : Option (OutMapper τ)) (L : List Holding) :
    Secures (I L) (d.executeCall sql params options handler)
      (fun cursor s => cursor.Sound ∧ I (cursor.holdings ++ L) s) (I L) := by
  refine Secures.bind (hI.executeCallStatement sql params options L) fun r => ?_
  obtain ⟨⟨slots, hasRows⟩, guard⟩ := r
  refine Secures.assuming fun hp => ?_
  refine Secures.bind (Driver.releaseGuard_secures guard hp) fun i => ?_
  refine Secures.assuming fun hi => ?_
  obtain rfl := hi
  refine Secures.bind (hI.openCallRows guard.statement hasRows L) fun current => ?_
  exact Secures.pure fun s hs =>
    ⟨((ResultCursor.on_ofStatement _ _).withHandler _ _).sound, hs⟩

theorem invokeCall (sql : String) (params : List Parameter) (options : Options)
    (mapper : OutMapper α) (L : List Holding) :
    Keeps (I L) (d.invokeCall sql params options mapper) := by
  refine Secures.bind (hI.executeCallStatement sql params options L) fun r => ?_
  obtain ⟨⟨slots, hasRows⟩, guard⟩ := r
  refine Secures.assuming fun _ => ?_
  refine Secures.bind (Secures.lift (hI.readOut _ _ (mapper slots) L).run) fun mapped => ?_
  refine Secures.bind (Secures.lift (hI.closeGuard guard L).run) fun closed => ?_
  refine Secures.bind Keeps.ofExcept fun value => ?_
  refine Secures.bind Keeps.ofExcept fun _ => ?_
  exact Keeps.pure

end Custody

end SqlGateway
