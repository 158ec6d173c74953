import SqlGateway.Proofs.Cursor.State
import SqlGateway.Proofs.Custody.Basic

/-!
# Custody through cursors

A result cursor owns a statement and the cursor that is open on it. Whatever is done with it, what
it owns afterwards is what is left open of that.
-/

namespace SqlGateway

namespace ResultCursor

variable {τ : Type}

/-- What a cursor owns. -/
def holdings (cursor : ResultCursor τ) : List Holding :=
  match cursor.statement with
  | some i => [⟨i, cursor.current⟩]
  | none => []

/-- The cursor that a move leaves: it is on the row that was reached, or else it is given up. -/
def Moved (r : Except Error (Option CurrentRow) × ResultCursor τ) : Prop :=
  match r.1 with
  | .ok (some row) => ∃ i, r.2.On i ∧ r.2.current = some row.cursor
  | _ => r.2.Spent

theorem holdings_of_some {cursor : ResultCursor τ} {i : StatementId} {c : Option CursorId}
    (h : cursor.statement = some i) (hc : cursor.current = c) : cursor.holdings = [⟨i, c⟩] := by
  simp only [holdings, h, hc]

theorem holdings_of_none {cursor : ResultCursor τ} (h : cursor.statement = none) :
    cursor.holdings = [] := by
  simp only [holdings, h]

theorem Spent.holdings {cursor : ResultCursor τ} (h : cursor.Spent) : cursor.holdings = [] :=
  holdings_of_none h.statement

theorem Moved.sound {r : Except Error (Option CurrentRow) × ResultCursor τ} (h : Moved r) :
    r.2.Sound := by
  obtain ⟨row, cursor⟩ := r
  rcases row with _ | _ | row
  case ok.some => exact h.choose_spec.1.sound
  all_goals exact .inl h

/-- Only a row leaves a cursor open. -/
theorem Moved.isClosed {r : Except Error (Option CurrentRow) × ResultCursor τ} (h : Moved r)
    (hr : ∀ row, r.1 ≠ .ok (some row)) : r.2.isClosed = true := by
  obtain ⟨row, cursor⟩ := r
  rcases row with _ | _ | row
  case ok.some => exact absurd rfl (hr row)
  all_goals exact h.closed

end ResultCursor

/-- The cursor that is open where a search ended. -/
def Sought.held : Sought → Option CursorId
  | .row c _ => some c
  | .exhausted => none
  | .failed _ held => held

namespace Custody

variable {σ τ α : Type} {d : Driver σ} {I : List Holding → Session σ → Prop} (hI : Custody d I)
include hI

/-! ## Releasing -/

theorem release {cursor : ResultCursor τ} (hc : cursor.Sound) (L : List Holding) :
    Triple (I (cursor.holdings ++ L)) (d.release cursor) fun after s => after.Spent ∧ I L s := by
  obtain ⟨statement, current⟩ := cursor
  obtain hc | ⟨i, hi⟩ := hc
  · obtain rfl : statement = none := hc.statement
    obtain rfl : current = none := hc.current
    exact Triple.pure fun _ hs => ⟨⟨rfl, rfl, rfl⟩, hs⟩
  · obtain rfl : statement = some i := hi.statement
    cases current with
    | none =>
        refine Triple.bind (hI.closeStatementWarned i _ L) fun _ => ?_
        exact Triple.pure fun _ hs => ⟨⟨rfl, rfl, rfl⟩, hs⟩
    | some c =>
        refine Triple.bind (hI.closeCursorWarned i c _ L) fun _ => ?_
        refine Triple.bind (hI.closeStatementWarned i _ L) fun _ => ?_
        exact Triple.pure fun _ hs => ⟨⟨rfl, rfl, rfl⟩, hs⟩

theorem drop {cursor : ResultCursor τ} (hc : cursor.Sound) (L : List Holding) :
    Triple (I (cursor.holdings ++ L)) (d.drop cursor) fun _ => I L := by
  unfold Driver.drop
  split
  · rename_i h
    rw [(hc.spent h).holdings]
    exact Triple.pure fun _ hs => hs
  · exact Triple.bind (hI.release hc L) fun _ => Triple.pure fun _ hs => hs.2

theorem close {cursor : ResultCursor τ} (hc : cursor.Sound) (L : List Holding) :
    Secures (I (cursor.holdings ++ L)) (d.close cursor) (fun _ => I L) (I L) := by
  have report (first second : Except Error Unit) :
      Keeps (I L) (do
        MonadExcept.ofExcept first
        MonadExcept.ofExcept second : Act σ Error Unit) :=
    Secures.bind Keeps.ofExcept fun _ =>
      Keeps.ofExcept
  rw [Driver.close_eq]
  obtain ⟨statement, current⟩ := cursor
  obtain hc | ⟨i, hi⟩ := hc
  · obtain rfl : statement = none := hc.statement
    obtain rfl : current = none := hc.current
    exact report (.ok ()) (.ok ())
  · obtain rfl : statement = some i := hi.statement
    cases current with
    | none =>
        refine Secures.bind (Q := fun _ => I (⟨i, none⟩ :: L)) (Keeps.pure)
          fun first => ?_
        refine Secures.bind (Secures.lift (hI.closeStatement i L).surfaced.run) fun second => ?_
        exact report first second
    | some c =>
        refine Secures.bind (Secures.lift (hI.closeCursor i c L).surfaced.run) fun first => ?_
        refine Secures.bind (Secures.lift (hI.closeStatement i L).surfaced.run) fun second => ?_
        exact report first second

/-! ## Rows -/

theorem failCursor (cursor : ResultCursor τ) (hc : cursor.Sound) (f : Failure)
    (L : List Holding) :
    Triple (I (cursor.holdings ++ L)) (d.failCursor cursor f) fun r s =>
      ResultCursor.Moved r ∧ I (r.2.holdings ++ L) s := by
  refine Triple.bind (hI.debug _ _) fun _ => ?_
  refine Triple.bind (hI.release hc L) fun after => Triple.pure fun s hs => ⟨hs.1, ?_⟩
  rw [hs.1.holdings]
  exact hs.2

theorem seek (i : StatementId) (current : Option CursorId) (switched : Bool)
    (L : List Holding) :
    Triple (I (⟨i, current⟩ :: L)) (d.seek (some i) current switched) fun r =>
      I (⟨i, r.held⟩ :: L) := by
  intro s hs
  fun_induction d.seek (some i) current switched s with
  | case1 switched s c s' hn => exact (hI.workCursor ⟨rfl, rfl⟩ i L).run.of_run hs hn
  | case2 switched s c s' hn s'' a hc ih =>
      have hs := (hI.workCursor ⟨rfl, rfl⟩ i L).run.of_run hs hn
      exact ih ((hI.closeCursor i c L).run.of_run hs hc)
  | case3 switched s c s' hn f s'' hc =>
      have hs := (hI.workCursor ⟨rfl, rfl⟩ i L).run.of_run hs hn
      exact (hI.closeCursor i c L).run.of_run hs hc
  | case4 switched s c f s' hn => exact (hI.workCursor ⟨rfl, rfl⟩ i L).run.of_run hs hn
  | case5 switched s j hj s' hm c s'' ho ih =>
      cases hj
      have hs := (hI.workStatement ⟨rfl, rfl⟩ none L).run.of_run hs hm
      exact ih (Triple.of_run (hI.openCursor i L) hs ho)
  | case6 switched s j hj s' hm s'' ho ih =>
      cases hj
      have hs := (hI.workStatement ⟨rfl, rfl⟩ none L).run.of_run hs hm
      exact ih (Triple.of_run (hI.openCursor i L) hs ho)
  | case7 switched s j hj s' hm f s'' ho =>
      cases hj
      have hs := (hI.workStatement ⟨rfl, rfl⟩ none L).run.of_run hs hm
      exact Triple.of_run (hI.openCursor i L) hs ho
  | case8 switched s j hj s' hm =>
      cases hj
      exact (hI.workStatement ⟨rfl, rfl⟩ none L).run.of_run hs hm
  | case9 switched s j hj f s' hm =>
      cases hj
      exact (hI.workStatement ⟨rfl, rfl⟩ none L).run.of_run hs hm
  | case10 switched s hj => cases hj

theorem fireHandler (cursor : ResultCursor τ) {i : StatementId} (hi : cursor.On i)
    (L : List Holding) :
    Triple (I (cursor.holdings ++ L)) (d.fireHandler cursor) fun r s =>
      r.2.On i ∧ I (r.2.holdings ++ L) s := by
  have served (handler : OutHandler τ) (s : Session σ) (hs : I (⟨i, cursor.current⟩ :: L) s) :
      I (({ cursor with handler } : ResultCursor τ).holdings ++ L) s := by
    rwa [ResultCursor.holdings_of_some (hi.handled handler).statement rfl]
  rw [ResultCursor.holdings_of_some hi.statement rfl]
  by_cases hh : ∃ mapper, cursor.handler = .armed mapper
  · obtain ⟨mapper, hh⟩ := hh
    rw [Driver.fireHandler_armed hi hh]
    refine Triple.bind (hI.readOut i cursor.current _ L).run fun r => ?_
    cases r <;> exact Triple.pure fun s hs => ⟨hi.handled _, served _ s hs⟩
  · rw [Driver.fireHandler_silent cursor (not_exists.mp hh)]
    exact Triple.pure fun s hs => ⟨hi, served cursor.handler s hs⟩

theorem finish (cursor : ResultCursor τ) {i : StatementId} (hi : cursor.On i)
    (L : List Holding) :
    Triple (I (cursor.holdings ++ L)) (d.finish cursor) fun r s =>
      ResultCursor.Moved r ∧ I (r.2.holdings ++ L) s := by
  refine Triple.bind (hI.fireHandler cursor hi L) fun r => ?_
  obtain ⟨fired, cursor⟩ := r
  refine Triple.assuming fun hi => ?_
  refine Triple.bind (hI.release hi.sound L) fun after => Triple.pure fun s hs => ⟨?_, ?_⟩
  · cases fired <;> exact hs.1
  · rw [hs.1.holdings]
    exact hs.2

theorem describeRow (cursor : ResultCursor τ) {i : StatementId} {c : CursorId}
    (hi : cursor.On i) (hc : cursor.current = some c) (L : List Holding) :
    Triple (I (cursor.holdings ++ L)) (d.describeRow cursor) fun r s =>
      ResultCursor.Moved r ∧ I (r.2.holdings ++ L) s := by
  have columns : Keeps (I (cursor.holdings ++ L)) (d.perform (.columns c)) := by
    rw [ResultCursor.holdings_of_some hi.statement hc]
    exact hI.workCursor ⟨rfl, rfl⟩ i L
  cases hs : cursor.stale with
  | false =>
      obtain ⟨row, -, hshown⟩ := hi.currentRow?_eq hs hc
      rw [Driver.describeRow_known fun ht => absurd (hs.symm.trans ht) nofun, hshown]
      exact Triple.pure fun s hs => ⟨⟨i, hi, hc⟩, hs⟩
  | true =>
      rw [Driver.describeRow_stale hs hc]
      refine Triple.bind columns.run fun r => ?_
      cases r with
      | ok columns =>
          obtain ⟨row, -, hshown⟩ := cursor.currentRow?_describe hc columns
          dsimp only
          rw [hshown]
          exact Triple.pure fun s hs => ⟨⟨i, hi.describe columns, hc⟩, hs⟩
      | error f => exact hI.failCursor cursor hi.sound f L

/-- A move leaves open what the cursor still owns. -/
theorem nextRow {cursor : ResultCursor τ} (hc : cursor.Sound) (L : List Holding) :
    Triple (I (cursor.holdings ++ L)) (d.nextRow cursor) fun r s =>
      ResultCursor.Moved r ∧ I (r.2.holdings ++ L) s := by
  obtain hspent | ⟨i, hi⟩ := hc
  · rw [Driver.nextRow_of_closed hspent.closed]
    exact Triple.pure fun _ hs => ⟨hspent, hs⟩
  · rw [Driver.nextRow_on hi, ResultCursor.holdings_of_some hi.statement rfl]
    refine Triple.bind (Driver.sought (hI.seek i cursor.current cursor.stale L))
      fun sought => Triple.assuming fun hstale => ?_
    cases sought with
    | row c stale =>
        have hon := hi.moved (c := c) (hstale c stale rfl)
        exact Triple.strengthen (hI.describeRow _ hon rfl L) fun s hs => by
          rwa [ResultCursor.holdings_of_some hon.statement rfl]
    | exhausted =>
        have hon := hi.held none
        exact Triple.strengthen (hI.finish _ hon L) fun s hs => by
          rwa [ResultCursor.holdings_of_some hon.statement rfl]
    | failed f held =>
        have hon := hi.held held
        exact Triple.strengthen (hI.failCursor _ hon.sound f L) fun s hs => by
          rwa [ResultCursor.holdings_of_some hon.statement rfl]

theorem readCurrent {row : CurrentRow} {cursor : ResultCursor τ}
    (hm : ResultCursor.Moved (.ok (some row), cursor)) (reading : CellReading Error α)
    (L : List Holding) : Keeps (I (cursor.holdings ++ L)) (d.readRow row.cursor reading) := by
  obtain ⟨i, hi, hc⟩ := hm
  rw [ResultCursor.holdings_of_some hi.statement hc]
  exact hI.readRow i row.cursor reading L

/-! ## Mapping -/

theorem mapRows (mapper : RowMapper α) (limit : Option Nat) {cursor : ResultCursor τ}
    (hc : cursor.Sound) (L : List Holding) :
    Triple (I (cursor.holdings ++ L)) (d.mapRows mapper limit cursor) fun r s =>
      r.2.Sound ∧ I (r.2.holdings ++ L) s := by
  intro s hs
  fun_induction d.mapRows mapper limit cursor s with
  | case1 cursor s => exact ⟨hc, hs⟩
  | case2 limit cursor s hl e cursor' s' hr =>
      obtain ⟨hm, hs⟩ := (hI.nextRow hc L).of_run hs hr
      exact ⟨hm.sound, hs⟩
  | case3 limit cursor s hl cursor' s' hr =>
      obtain ⟨hm, hs⟩ := (hI.nextRow hc L).of_run hs hr
      exact ⟨hm.sound, hs⟩
  | case4 limit cursor s hl row cursor' s' hr e s'' hread cursor'' s3 hrel =>
      obtain ⟨hm, hs⟩ := (hI.nextRow hc L).of_run hs hr
      have hs := (hI.readCurrent hm _ L).run.of_run hs hread
      obtain ⟨hspent, hs⟩ := (hI.release hm.sound L).of_run hs hrel
      refine ⟨.inl hspent, ?_⟩
      rw [hspent.holdings]
      exact hs
  | case5 limit cursor s hl row cursor' s' hr a s'' hread rest cursor'' s3 hrest ih =>
      obtain ⟨hm, hs⟩ := (hI.nextRow hc L).of_run hs hr
      have hs := (hI.readCurrent hm _ L).run.of_run hs hread
      have hs := ih hm.sound hs
      rwa [hrest] at hs

theorem rowMaps {cursor : ResultCursor τ} (hc : cursor.Sound) (L : List Holding) :
    Triple (I (cursor.holdings ++ L)) (d.rowMaps cursor) fun r s =>
      r.2.Sound ∧ I (r.2.holdings ++ L) s :=
  Triple.bind (hI.mapRows Row.toMap none hc L) fun _ => Triple.pure fun _ hs => hs

end Custody

/-! ## Cursors that are spent -/

namespace Driver

variable {σ τ α : Type} {d : Driver σ} {cursor : ResultCursor τ}

/-- No condition at all is in custody. -/
theorem custody_true (d : Driver σ) : Custody d fun _ _ => True :=
  Custody.of_calls (fun _ _ _ => trivial) (fun _ _ _ _ => trivial) (fun _ _ _ => trivial)
    fun _ _ => Secures.of_run fun _ _ => trivial

/-- A cursor that gives no row is closed, be it at its end or because something failed. -/
theorem nextRow_isClosed (hc : cursor.Sound) (s : Session σ)
    (hr : ∀ row, (d.nextRow cursor s).1.1 ≠ .ok (some row)) :
    (d.nextRow cursor s).1.2.isClosed = true :=
  ((custody_true d).nextRow hc [] s trivial).1.isClosed hr

/-- So is a cursor whose rows have all been mapped. -/
theorem mapRows_isClosed (mapper : RowMapper α) (hc : cursor.Sound) (s : Session σ) :
    (d.mapRows mapper none cursor s).1.2.isClosed = true := by
  generalize hlimit : (none : Option Nat) = limit
  fun_induction d.mapRows mapper limit cursor s with
  | case1 cursor s => cases hlimit
  | case2 limit cursor s hl e cursor' s' hr =>
      have := nextRow_isClosed (d := d) hc s
      rw [hr] at this
      exact this nofun
  | case3 limit cursor s hl cursor' s' hr =>
      have := nextRow_isClosed (d := d) hc s
      rw [hr] at this
      exact this nofun
  | case4 limit cursor s hl row cursor' s' hr e s'' hread cursor'' s3 hrel =>
      have hm := ((custody_true d).nextRow hc []).of_run trivial hr
      exact (((custody_true d).release hm.1.sound []).of_run trivial hrel).1.closed
  | case5 limit cursor s hl row cursor' s' hr a s'' hread rest cursor'' s3 hrest ih =>
      have hm := ((custody_true d).nextRow hc []).of_run trivial hr
      subst hlimit
      have := ih hm.1.sound rfl
      rwa [hrest] at this

end Driver

end SqlGateway
