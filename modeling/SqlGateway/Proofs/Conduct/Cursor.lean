import SqlGateway.Proofs.Conduct.Basic
import SqlGateway.Proofs.Walk.Fetching

/-!
# Conduct of cursors

A cursor never prepares a statement and passes no value in. It comes to no error but a failed
execution, an error of the mapper of its rows or one of the handler for output values.
-/

namespace SqlGateway

variable {σ τ α : Type} {d : Driver σ} {q : Option Request} {P : Session σ → Prop}
  {E : Error → Session σ → Prop} {R : CursorId → Session σ → Prop}
  {V : StatementId → Session σ → Prop}

/-- The handler that a cursor has still to serve keeps to the conduct. -/
def ResultCursor.Tended (d : Driver σ) (P : Session σ → Prop) (E : Error → Session σ → Prop)
    (V : StatementId → Session σ → Prop) (cursor : ResultCursor τ) : Prop :=
  ∀ mapper, cursor.handler = .armed mapper → MindsOut d P E V mapper

/-- What holds where a search has ended. -/
def Sought.Met (P : Session σ → Prop) (R : CursorId → Session σ → Prop) (Q : Session σ → Prop) :
    Sought → Session σ → Prop
  | .row c _ => R c
  | .exhausted => Q
  | .failed .. => P

/-- What holds where a move has ended without an error. -/
def CurrentRow.Met (P : Session σ → Prop) (R : CursorId → Session σ → Prop) :
    Option CurrentRow → Session σ → Prop
  | some row => R row.cursor
  | none => P

/-! ## Readings that fail with their questions only -/

/-- Whatever the answers are, the reading ends with something that has the property. -/
def Reading.Always {ρ : Type} {A : ρ → Type} (p : α → Prop) : Reading ρ A α → Prop
  | .done a => p a
  | .ask _ next => ∀ answer, (next answer).Always p

namespace Reading.Always

variable {ρ β : Type} {A : ρ → Type} {p : α → Prop} {r : Reading ρ A α}

theorem intro (h : ∀ a, p a) (r : Reading ρ A α) : r.Always p := by
  induction r with
  | done a => exact h a
  | ask question next ih => exact ih

theorem bind {p' : β → Prop} {f : α → Reading ρ A β} (hr : r.Always p)
    (hf : ∀ a, p a → (f a).Always p') : (r >>= f).Always p' := by
  induction r with
  | done a => exact hf a hr
  | ask question next ih => exact fun answer => ih answer (hr answer)

theorem run (hr : r.Always p) (answer : (r : ρ) → Act σ Failure (A r)) (s : Session σ) :
    p (r.run answer s).1 := by
  induction r generalizing s with
  | done a => exact hr
  | ask question next ih => exact ih _ (hr _) _

end Reading.Always

/-- The outcome is no error but what a failure becomes. -/
def FailsOnly : Except Error α → Prop
  | .ok _ => True
  | .error e => ∃ f, e = .ofFailure f

namespace FailsOnly

variable {β : Type}

theorem bind {reading : CellReading Error α} {f : α → CellReading Error β}
    (h : reading.run.Always FailsOnly) (hf : ∀ a, (f a).run.Always FailsOnly) :
    (reading >>= f).run.Always FailsOnly := by
  refine Reading.Always.bind h fun r hr => ?_
  cases r with
  | ok a => exact hf a
  | error e => exact hr

theorem surfaced (reading : CellReading Failure α) :
    (Row.surfaced reading).run.Always FailsOnly := by
  refine Reading.Always.bind (Reading.Always.intro (p := fun _ => True) (fun _ => trivial) _)
    fun r _ => ?_
  cases r with
  | ok a => exact trivial
  | error f => exact ⟨f, rfl⟩

theorem get {row : Row} {index : Nat} (h : row.checkIndex index = .ok ()) :
    (row.get index).run.Always FailsOnly := by
  unfold Row.get
  rw [h]
  exact surfaced _

theorem addColumns {row : Row} {index : Nat} {columns : List Column} (hi : 0 < index)
    (hc : index + columns.length ≤ row.columnCount + 1) (m : RowMap) :
    (row.addColumns index m columns).run.Always FailsOnly := by
  induction columns generalizing index m with
  | nil => trivial
  | cons column columns ih =>
      rw [List.length_cons] at hc
      have hrest (m : RowMap) : (row.addColumns (index + 1) m columns).run.Always FailsOnly :=
        ih (by omega) (by omega) m
      unfold Row.addColumns
      split
      · exact hrest m
      · refine bind (get ?_) fun value => hrest _
        have hin : ¬ (index = 0 ∨ row.columnCount < index) := by omega
        simpa [Row.checkIndex] using hin

theorem toMap (row : Row) : row.toMap.run.Always FailsOnly :=
  addColumns Nat.one_pos (by simp [Row.columnCount, Nat.add_comm]) {}

end FailsOnly

/-! ## Closing -/

namespace Upheld

variable (h : Upheld d q P)
include h

theorem unfetched : Unfetched d P where
  log := h.log
  count := h.count
  call c hc := h.call c (by cases c <;> trivial)

theorem release (cursor : ResultCursor τ) :
    Triple P (d.release cursor) fun after s => after = cursor.spent ∧ P s :=
  h.unfetched.release cursor

theorem drop (cursor : ResultCursor τ) : Triple P (d.drop cursor) fun _ => P := by
  unfold Driver.drop
  split
  · exact Triple.pure fun _ hs => hs
  · exact Triple.bind (h.release cursor) fun _ => Triple.pure fun _ hs => hs.2

end Upheld

namespace Conduct

variable (h : Conduct d q P E R V)
include h

/-- The first of two errors is reported. -/
theorem close (cursor : ResultCursor τ) : Meets P (d.close cursor) (fun _ => P) E := by
  have report (first second : Except Error Unit) :
      Meets (Ended (fun _ => P) E (first >>= fun _ => second)) (do
        MonadExcept.ofExcept first
        MonadExcept.ofExcept second : Act σ Error Unit) (fun _ => P) E := by
    cases first <;> cases second <;> exact fun _ hs => hs
  have closed (first : Except Error Unit) (i : StatementId) :
      Meets (Ended (fun _ => P) E first) (do
        let second ← ExceptT.lift (SqlGateway.surfaced (d.perform (.closeStatement i))).run
        MonadExcept.ofExcept first
        MonadExcept.ofExcept second : Act σ Error Unit) (fun _ => P) E := by
    refine Meets.bind (Q := fun second => Ended (fun _ => P) E (first >>= fun _ => second)) ?_
      (report first)
    cases first with
    | ok => exact Meets.lift (h.perform (c := .closeStatement i) trivial)
    | error e => exact Meets.lift (h.late (c := .closeStatement i) trivial e)
  have released (c : CursorId) : Triple P
      (SqlGateway.surfaced (d.perform (.closeCursor c))).run (Ended (fun _ => P) E) :=
    h.perform (c := .closeCursor c) trivial
  rw [Driver.close_eq]
  obtain ⟨statement, current, row, stale, slots, handler⟩ := cursor
  cases current with
  | none =>
      cases statement with
      | none => exact report (.ok ()) (.ok ())
      | some i => exact closed (.ok ()) i
  | some c =>
      refine Meets.bind (Meets.lift (released c)) fun first => ?_
      cases statement with
      | none =>
          refine Meets.strengthen (report first (.ok ())) fun s hs => ?_
          cases first <;> exact hs
      | some i => exact closed first i

/-! ## Rows -/

theorem seek (statement : Option StatementId) (current : Option CursorId) (switched : Bool) :
    Triple P (d.seek statement current switched) (Sought.Met P R (statement.elim P V)) := by
  intro s hs
  have next (c : CursorId) := h.reached c
  have closed (c : CursorId) := (h.going.call (.closeCursor c) trivial).run
  have more (i : StatementId) := h.exhausted i
  have opened (i : StatementId) := (h.going.openCursor i).run
  fun_induction d.seek statement current switched s with
  | case1 switched s c s' hn => exact (Triple.of_run (next c) hs hn).2 rfl
  | case2 switched s c s' hn s'' a hc ih =>
      exact ih ((closed c).of_run (Triple.of_run (next c) hs hn).1 hc)
  | case3 switched s c s' hn f s'' hc =>
      exact (closed c).of_run (Triple.of_run (next c) hs hn).1 hc
  | case4 switched s c f s' hn => exact Triple.of_run (next c) hs hn
  | case5 switched s i hi s' hm c s'' ho ih =>
      exact ih ((opened i).of_run (Triple.of_run (more i) hs hm).1 ho)
  | case6 switched s i hi s' hm s'' ho ih =>
      exact ih ((opened i).of_run (Triple.of_run (more i) hs hm).1 ho)
  | case7 switched s i hi s' hm f s'' ho =>
      exact (opened i).of_run (Triple.of_run (more i) hs hm).1 ho
  | case8 switched s i hi s' hm =>
      rw [hi]
      exact (Triple.of_run (more i) hs hm).2 rfl
  | case9 switched s i hi f s' hm => exact Triple.of_run (more i) hs hm
  | case10 switched s hi =>
      rw [hi]
      exact hs

theorem failCursor {cursor : ResultCursor τ} (ht : cursor.Tended d P E V) (f : Failure) :
    Triple P (d.failCursor cursor f) fun r s =>
      r.2.Tended d P E V ∧ Ended (CurrentRow.Met P R) E r.1 s := by
  refine Triple.strengthen (P := E (.ofFailure f)) ?_ (h.ofFailure f)
  unfold Driver.failCursor
  generalize Error.ofFailure f = e
  refine Triple.bind ((h.failed e).debug _) fun _ => ?_
  exact Triple.bind ((h.failed e).release cursor) fun after => Triple.pure fun s hs =>
    ⟨hs.1 ▸ ht, hs.2⟩

theorem fireHandler {cursor : ResultCursor τ} (ht : cursor.Tended d P E V) :
    Triple (cursor.statement.elim P V) (d.fireHandler cursor) fun r s =>
      r.2.Tended d P E V ∧ Ended (fun _ => P) E r.1 s := by
  obtain ⟨statement, current, row, stale, slots, handler, closed⟩ := cursor
  have idle (s : Session σ) (hs : statement.elim P V s) : P s := by
    cases statement with
    | none => exact hs
    | some i => exact h.going_of_executed i s hs
  cases handler with
  | armed mapper =>
      cases statement with
      | none => exact Triple.pure fun s hs => ⟨nofun, hs⟩
      | some i =>
          refine Triple.bind (ht mapper rfl i slots) fun r => ?_
          cases r <;> exact Triple.pure fun s hs => ⟨nofun, hs⟩
  | unarmed | fired => exact Triple.pure fun s hs => ⟨ht, idle s hs⟩

theorem finish {cursor : ResultCursor τ} (ht : cursor.Tended d P E V) :
    Triple (cursor.statement.elim P V) (d.finish cursor) fun r s =>
      r.2.Tended d P E V ∧ Ended (CurrentRow.Met P R) E r.1 s := by
  refine Triple.bind (h.fireHandler ht) fun r => ?_
  obtain ⟨fired, cursor⟩ := r
  refine Triple.assuming fun ht => ?_
  cases fired with
  | ok a =>
      exact Triple.bind (h.going.release cursor) fun after => Triple.pure fun s hs =>
        ⟨hs.1 ▸ ht, hs.2⟩
  | error e =>
      exact Triple.bind ((h.failed e).release cursor) fun after => Triple.pure fun s hs =>
        ⟨hs.1 ▸ ht, hs.2⟩

/-- A row is shown only where the cursor is on it. -/
theorem met_currentRow {cursor : ResultCursor τ} {c : CursorId} (hc : cursor.current = some c)
    {s : Session σ} (hs : R c s) : CurrentRow.Met P R cursor.currentRow? s := by
  unfold ResultCursor.currentRow?
  rw [hc]
  cases cursor.row with
  | none => exact h.going_of_reached c s hs
  | some row => exact hs

theorem describeRow {cursor : ResultCursor τ} (ht : cursor.Tended d P E V) {c : CursorId}
    (hc : cursor.current = some c) :
    Triple (R c) (d.describeRow cursor) fun r s =>
      r.2.Tended d P E V ∧ Ended (CurrentRow.Met P R) E r.1 s := by
  cases hs : cursor.stale with
  | false =>
      rw [Driver.describeRow_known fun ht => absurd (hs.symm.trans ht) nofun]
      exact Triple.pure fun s hs => ⟨ht, h.met_currentRow hc hs⟩
  | true =>
      rw [Driver.describeRow_stale hs hc]
      refine Triple.bind (h.described c).run fun r => ?_
      cases r with
      | ok columns =>
          have hdescribed : (cursor.describe columns).current = some c := hc
          exact Triple.pure fun s hs => ⟨ht, h.met_currentRow hdescribed hs⟩
      | error f => exact Triple.strengthen (h.failCursor ht f) (h.going_of_reached c)

theorem nextRow {cursor : ResultCursor τ} (ht : cursor.Tended d P E V) :
    Triple P (d.nextRow cursor) fun r s =>
      r.2.Tended d P E V ∧ Ended (CurrentRow.Met P R) E r.1 s := by
  unfold Driver.nextRow
  split
  · exact Triple.pure fun s hs => ⟨ht, hs⟩
  · refine Triple.bind (h.seek cursor.statement cursor.current cursor.stale) fun sought => ?_
    cases sought with
    | row c stale =>
        have ht : ResultCursor.Tended d P E V { cursor with current := some c, stale } := ht
        exact h.describeRow ht rfl
    | exhausted =>
        have ht : ResultCursor.Tended d P E V { cursor with current := none } := ht
        exact h.finish ht
    | failed f held =>
        have ht : ResultCursor.Tended d P E V { cursor with current := held } := ht
        exact h.failCursor ht f

/-! ## Mapping -/

theorem mapRows {mapper : RowMapper α} (hmapper : Minds d P E R mapper) (limit : Option Nat)
    {cursor : ResultCursor τ} (ht : cursor.Tended d P E V) :
    Triple P (d.mapRows mapper limit cursor) fun r s =>
      r.2.Tended d P E V ∧ P s ∧ ∀ e, .error e ∈ r.1 → E e s := by
  have next {cursor : ResultCursor τ} (ht : cursor.Tended d P E V) := h.nextRow ht
  intro s hs
  fun_induction d.mapRows mapper limit cursor s with
  | case1 cursor s => exact ⟨ht, hs, fun _ he => absurd he List.not_mem_nil⟩
  | case2 limit cursor s hl e cursor' s' hr =>
      obtain ⟨ht, hs⟩ := (next ht).of_run hs hr
      refine ⟨ht, h.going_of_failed e s' hs, fun e' he => ?_⟩
      obtain rfl := Except.error.inj (List.mem_singleton.mp he)
      exact hs
  | case3 limit cursor s hl cursor' s' hr =>
      obtain ⟨ht, hs⟩ := (next ht).of_run hs hr
      exact ⟨ht, hs, fun _ he => absurd he List.not_mem_nil⟩
  | case4 limit cursor s hl row cursor' s' hr e s'' hread cursor'' s3 hrel =>
      obtain ⟨ht, hs⟩ := (next ht).of_run hs hr
      have hs := (hmapper row.cursor row.row).of_run hs hread
      obtain ⟨rfl, hs⟩ := ((h.failed e).release cursor').of_run hs hrel
      refine ⟨ht, h.going_of_failed e s3 hs, fun e' he => ?_⟩
      obtain rfl := Except.error.inj (List.mem_singleton.mp he)
      exact hs
  | case5 limit cursor s hl row cursor' s' hr a s'' hread rest cursor'' s3 hrest ih =>
      obtain ⟨ht, hs⟩ := (next ht).of_run hs hr
      have hs := (hmapper row.cursor row.row).of_run hs hread
      obtain ⟨ht, hs, herrors⟩ := ih ht hs
      rw [hrest] at ht hs herrors
      exact ⟨ht, hs, fun e he => herrors e (by simpa using he)⟩

omit h in
theorem mem_of_collect {items : List (Except Error α)} {e : Error}
    (hc : Driver.collect items = .error e) : .error e ∈ items := by
  induction items with
  | nil => cases hc
  | cons item items ih =>
      cases item with
      | error e' =>
          cases hc
          exact List.mem_cons_self
      | ok a =>
          unfold Driver.collect at hc
          cases hrest : Driver.collect items with
          | ok as =>
              rw [hrest] at hc
              cases hc
          | error e' =>
              rw [hrest] at hc
              cases hc
              exact List.mem_cons_of_mem _ (ih hrest)

theorem minds_toMap : Minds d P E R Row.toMap := by
  refine fun c row => Triple.strengthen (P := P) (fun s hs => ?_) (h.going_of_reached c)
  have hkept := (Keeps.readRow (P := P) (k := c)
    (fun call hc => h.going.call call (Call.serves_of_worksOn hc)) row.toMap).run s hs
  have hfails := (FailsOnly.toMap row).run (d.answerCell c) s
  revert hkept hfails
  change _ → FailsOnly (((d.readRow c row.toMap).run s).1) → _
  generalize (d.readRow c row.toMap).run s = result
  obtain ⟨r, s'⟩ := result
  cases r with
  | ok m => exact fun hs _ => hs
  | error e =>
      rintro hs ⟨f, rfl⟩
      exact h.ofFailure f s' hs

theorem rowMaps {cursor : ResultCursor τ} (ht : cursor.Tended d P E V) :
    Triple P (d.rowMaps cursor) fun r s => r.2.Tended d P E V ∧ Ended (fun _ => P) E r.1 s := by
  refine Triple.bind (h.mapRows h.minds_toMap none ht) fun r => Triple.pure fun s hs => ?_
  obtain ⟨items, after⟩ := r
  obtain ⟨ht, hs, herrors⟩ := hs
  refine ⟨ht, ?_⟩
  dsimp only
  cases hc : Driver.collect items with
  | ok maps => exact hs
  | error e => exact herrors e (mem_of_collect hc)

end Conduct

end SqlGateway
