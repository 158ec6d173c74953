import SqlGateway.Database.Results
import SqlGateway.Proofs.Act.Execution
import SqlGateway.Proofs.Trace.Basic

/-!
# Results in view

What a driver is documented to do with results, as a view of its state: a statement is on one of its
results, the others are ahead, and a cursor goes over the rows of one set. A call that succeeds
moves as its documentation says; one that fails may leave the results in any state, unless it only
reads.
-/

namespace SqlGateway

open Database

variable {σ τ κ : Type} {d : Driver σ}

/-- The results of a driver's statements and the rows of its cursors, as its calls move on through
them. A result is a set of rows or, where it is none, nothing that has rows. -/
structure ResultView (d : Driver σ) (κ : Type) where
  current : σ → StatementId → Option (ResultSet κ)
  pending : σ → StatementId → List (Option (ResultSet κ))
  cursor : σ → CursorId → CursorState κ
  /-- Moves on to the next result; there is one if and only if one was ahead. -/
  moreResults : ∀ {i s more s'}, d.call (.moreResults i) s = (.ok more, s') →
    pending s i = if more then current s' i :: pending s' i else []
  /-- Opens a cursor over the result that the statement is on, if that is a set of rows. -/
  resultCursor : ∀ {i c s opened s'}, d.call (.resultCursor i c) s = (.ok opened, s') →
    (current s i).map .ofSet = (if opened then some (cursor s' c) else none) ∧
      pending s' = pending s
  /-- Moves on to the next row, if there is one. -/
  next : ∀ {c s moved s'}, d.call (.next c) s = (.ok moved, s') →
    (cursor s c).next = (moved, cursor s' c) ∧ pending s' = pending s
  columns : ∀ {c s columns s'}, d.call (.columns c) s = (.ok columns, s') →
    columns = (cursor s c).columns
  reads : ∀ {call : Call} {c : CursorId}, call.WorksOn (.cursor c) → call ≠ .next c → ∀ s,
    cursor (d.call call s).2 c = cursor s c ∧ pending (d.call call s).2 = pending s
  closeCursor : ∀ {c s s'}, d.call (.closeCursor c) s = (.ok (), s') → pending s' = pending s

/-! ## Rows -/

/-- A row as it is seen: with the columns of its own set. -/
abbrev SeenRow (κ : Type) := Row × List κ

def seenRows (columns : List Column) (rows : List (List κ)) : List (SeenRow κ) :=
  rows.map fun cells => (Row.ofColumns columns, cells)

/-- The rows of a list of results, in order. -/
def rowsOf : List (Option (ResultSet κ)) → List (SeenRow κ)
  | [] => []
  | some set :: results => seenRows set.columns set.rows ++ rowsOf results
  | none :: results => rowsOf results

namespace ResultView

variable (view : ResultView d κ)

/-- The results that an execution has brought; `onResult` is what it has answered. -/
def produced (s : σ) (i : StatementId) (onResult : Bool) : List (Option (ResultSet κ)) :=
  if onResult then view.current s i :: view.pending s i else view.pending s i

def ahead (s : σ) (c : CursorId) : List (SeenRow κ) :=
  seenRows (view.cursor s c).columns (view.cursor s c).ahead

/-- The rows that a result cursor has still to deliver. -/
def left (s : σ) (i : StatementId) (current : Option CursorId) : List (SeenRow κ) :=
  (current.elim [] (view.ahead s)) ++ rowsOf (view.pending s i)

/-! ## What calls leave -/

variable {view} {i : StatementId} {c : CursorId} {s s' : σ}

theorem left_none : view.left s i none = rowsOf (view.pending s i) :=
  rfl

/-- A row that is moved on to was the first of those that were left. -/
theorem left_of_next_true (h : d.call (.next c) s = (.ok true, s')) :
    (view.cursor s' c).columns = (view.cursor s c).columns ∧
      ∃ cells, (view.cursor s' c).row = some cells ∧ view.left s i (some c) =
        (Row.ofColumns (view.cursor s' c).columns, cells) :: view.left s' i (some c) := by
  obtain ⟨hnext, hpending⟩ := view.next h
  generalize hcursor : view.cursor s c = cursor at hnext
  obtain ⟨columns, row, rows, closed⟩ := cursor
  cases rows with
  | nil => cases hnext
  | cons cells rows =>
      obtain ⟨-, hmoved⟩ := Prod.mk.inj hnext
      refine ⟨by rw [← hmoved], cells, by rw [← hmoved], ?_⟩
      simp only [left, Option.elim, ahead, hcursor, ← hmoved, hpending]
      rfl

/-- At the end of a set what is left is in the results ahead. -/
theorem left_of_next_false (h : d.call (.next c) s = (.ok false, s')) :
    view.left s i (some c) = view.left s' i none := by
  obtain ⟨hnext, hpending⟩ := view.next h
  generalize hcursor : view.cursor s c = cursor at hnext
  obtain ⟨columns, row, rows, closed⟩ := cursor
  cases rows with
  | nil =>
      simp only [left, Option.elim, ahead, hcursor, hpending]
      rfl
  | cons cells rows => cases hnext

theorem left_of_closeCursor (h : d.call (.closeCursor c) s = (.ok (), s')) :
    view.left s i none = view.left s' i none := by
  rw [left_none, left_none, view.closeCursor h]

theorem left_of_moreResults_true (h : d.call (.moreResults i) s = (.ok true, s')) :
    view.left s i none = rowsOf (view.produced s' i true) := by
  rw [left_none, view.moreResults h]
  rfl

theorem left_of_moreResults_false (h : d.call (.moreResults i) s = (.ok false, s')) :
    view.left s i none = [] := by
  rw [left_none, view.moreResults h]
  rfl

/-- A result that is opened, or found to have no rows, keeps what was left in it. -/
theorem left_of_resultCursor {opened : Bool}
    (h : d.call (.resultCursor i c) s = (.ok opened, s')) :
    rowsOf (view.produced s i true) = view.left s' i (if opened then some c else none) := by
  obtain ⟨hcurrent, hpending⟩ := view.resultCursor h
  simp only [produced, if_true, left, hpending]
  generalize view.current s i = current at hcurrent
  cases current with
  | none =>
      cases opened with
      | false => rfl
      | true => cases hcurrent
  | some set =>
      cases opened with
      | false => cases hcurrent
      | true =>
          have hset : CursorState.ofSet set = view.cursor s' c := Option.some.inj hcurrent
          simp only [if_true, Option.elim, ahead, ← hset]
          rfl

variable (view) in
theorem left_of_reads {call : Call} (hw : call.WorksOn (.cursor c)) (hn : call ≠ .next c) (s : σ) :
    view.cursor (d.call call s).2 c = view.cursor s c ∧
      view.left (d.call call s).2 i (some c) = view.left s i (some c) := by
  obtain ⟨hcursor, hpending⟩ := view.reads hw hn s
  exact ⟨hcursor, by simp only [left, Option.elim, ahead, hcursor, hpending]⟩

end ResultView

theorem call_of_traced {c : Call} {s s' : Traced σ} {r : Except Failure c.Answer}
    (h : d.traced.call c s = (r, s')) : d.call c s.database = (r, s'.database) := by
  have hanswer := congrArg Prod.fst h
  have hdatabase := congrArg (fun result => result.2.database) h
  exact Prod.ext hanswer hdatabase

/-- A driver that is watched has its results in view as it would unwatched. -/
def ResultView.traced (view : ResultView d κ) : ResultView d.traced κ where
  current s := view.current s.database
  pending s := view.pending s.database
  cursor s := view.cursor s.database
  moreResults h := view.moreResults (call_of_traced h)
  resultCursor h := view.resultCursor (call_of_traced h)
  next h := view.next (call_of_traced h)
  columns h := view.columns (call_of_traced h)
  reads hw hn s := view.reads hw hn s.database
  closeCursor h := view.closeCursor (call_of_traced h)

end SqlGateway
