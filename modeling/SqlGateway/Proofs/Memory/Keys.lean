import SqlGateway.Proofs.Act.Reading
import SqlGateway.Proofs.Act.Run
import SqlGateway.Proofs.Memory.Twins

/-!
# Reading generated keys

Each row of keys comes to what its mapper makes of the cells, and reading the keys of a statement
maps the rows that its last execution has left, in order. Nothing is lost and nothing is left over
from an earlier execution.
-/

namespace SqlGateway

namespace Database

/-- What a cursor tells of the cells of the row that it is on. -/
def CursorState.answer (c : CursorState Value) : (r : CellRead) → Except Failure r.Answer
  | .object index => c.cell index
  | .binaryStream index => binaryStream (c.cell index)
  | .characterStream index => characterStream (c.cell index)

theorem CursorState.answer_of_row {c c' : CursorState Value} (h : c.row = c'.row) :
    c.answer = c'.answer := by
  have hcell : c.cell = c'.cell := by
    funext index
    unfold CursorState.cell
    rw [h]
  funext r
  unfold CursorState.answer
  rw [hcell]

/-- Where there is a next row, the cursor is on it and has the others ahead. -/
theorem CursorState.next_true {κ : Type} {c c' : CursorState κ} (h : c.next = (true, c')) :
    ∃ cells, c.ahead = cells :: c'.ahead ∧ c'.row = some cells ∧ c'.columns = c.columns ∧
      c'.closed = c.closed := by
  unfold CursorState.next at h
  split at h
  · rename_i cells ahead hahead
    cases h
    exact ⟨cells, hahead, rfl, rfl, rfl⟩
  · cases h

variable {α : Type}

/-- What a mapper makes of the cells of a row. -/
def mapRow (mapper : RowMapper α) (columns : List Column) (cells : List Value) : Option α :=
  ((mapper (.ofColumns columns)).run.eval
    (CursorState.answer { columns, row := some cells, ahead := [] })).toOption

/-- The mapped keys of an execution; there are none where it has generated none. -/
def mapKeys (mapper : RowMapper α) : Option (ResultSet Value) → Option (List α)
  | none => some []
  | some set => set.rows.mapM (mapRow mapper set.columns)

/-! ## Keys of several executions -/

namespace Procedure

/-- What comes of running the procedure for each row in turn, if that fails for none of them. -/
def executions (p : Procedure) (table : Table) :
    List (List Value) → Option (List (Execution (ResultSet Value) Value))
  | [] => some []
  | row :: rows =>
    match p table row with
    | (.ok e, table) => (executions p table rows).map (e :: ·)
    | (.error _, _) => none

/-- The mapped keys of the first row, then those of the second, and so on. -/
def collected (p : Procedure) (mapper : RowMapper α) (table : Table) (rows : List (List Value)) :
    Option (List α) := do
  let executions ← p.executions table rows
  let keys ← executions.mapM fun e => mapKeys mapper e.keys
  return keys.flatten

/-- The keys that the procedure generates all have the same columns. -/
def KeysIn (p : Procedure) (columns : List Column) : Prop :=
  ∀ {table table' : Table} {values : List Value} {e : Execution (ResultSet Value) Value}
    {set : ResultSet Value}, p table values = (.ok e, table') → e.keys = some set →
      set.columns = columns

variable {p : Procedure} {mapper : RowMapper α} {table table' : Table} {row : List Value}
  {rows : List (List Value)}

theorem collected_of_error {f : Failure} (h : p table row = (.error f, table')) :
    p.collected mapper table (row :: rows) = none := by
  unfold collected executions
  rw [h]
  rfl

/-- Whether keys are mapped after each execution or after all of them makes no difference. -/
theorem collected_of_ok {e : Execution (ResultSet Value) Value}
    (h : p table row = (.ok e, table')) :
    p.collected mapper table (row :: rows) = (do
      let keys ← mapKeys mapper e.keys
      let rest ← p.collected mapper table' rows
      return keys ++ rest) := by
  have hexecutions : p.executions table (row :: rows) =
      (p.executions table' rows).map (e :: ·) := by
    rw [executions, h]
  unfold collected
  rw [hexecutions]
  cases p.executions table' rows with
  | none => cases mapKeys mapper e.keys <;> rfl
  | some executions =>
      simp only [Option.map_some, Option.bind_eq_bind, Option.bind_some, List.mapM_cons]
      cases mapKeys mapper e.keys with
      | none => rfl
      | some keys => cases executions.mapM fun e => mapKeys mapper e.keys <;> rfl

theorem mem_executions {executions : List (Execution (ResultSet Value) Value)}
    (h : p.executions table rows = some executions) :
    ∀ e ∈ executions, ∃ table values table', p table values = (.ok e, table') := by
  induction rows generalizing table executions with
  | nil =>
      cases h
      exact List.forall_mem_nil _
  | cons row rows ih =>
      unfold Procedure.executions at h
      split at h
      · rename_i e table' hrun
        obtain ⟨rest, hrest, rfl⟩ := Option.map_eq_some_iff.mp h
        exact List.forall_mem_cons.mpr ⟨⟨table, row, table', hrun⟩, ih hrest⟩
      · cases h

end Procedure

theorem mapKeys_merge {mapper : RowMapper α} {columns : List Column} {sets : List (ResultSet Value)}
    (h : ∀ set ∈ sets, set.columns = columns) :
    mapKeys mapper (ResultSet.merge sets) =
      (sets.flatMap (·.rows)).mapM (mapRow mapper columns) := by
  have appended (set : ResultSet Value) (sets : List (ResultSet Value)) :
      sets.foldl ResultSet.append set = ⟨set.columns, set.rows ++ sets.flatMap (·.rows)⟩ := by
    induction sets generalizing set with
    | nil => simp
    | cons other sets ih => simp [ih, ResultSet.append]
  cases sets with
  | nil => rfl
  | cons set sets =>
      rw [ResultSet.merge, appended, h set List.mem_cons_self]
      rfl

/-- Keys that are mapped together are those that are mapped apart. -/
theorem mapKeys_filterMap {mapper : RowMapper α} {columns : List Column}
    {executions : List (Execution (ResultSet Value) Value)}
    (h : ∀ e ∈ executions, ∀ set, e.keys = some set → set.columns = columns) :
    mapKeys mapper (ResultSet.merge (executions.filterMap (·.keys))) =
      (executions.mapM fun e => mapKeys mapper e.keys).map List.flatten := by
  rw [mapKeys_merge fun set hset => by
    obtain ⟨e, he, hkeys⟩ := List.mem_filterMap.mp hset
    exact h e he set hkeys]
  induction executions with
  | nil => rfl
  | cons e executions ih =>
      obtain ⟨he, hrest⟩ := List.forall_mem_cons.mp h
      rw [List.mapM_cons]
      cases hkeys : e.keys with
      | none =>
          rw [List.filterMap_cons_none hkeys, ih hrest]
          cases executions.mapM fun e => mapKeys mapper e.keys <;> rfl
      | some set =>
          rw [List.filterMap_cons_some hkeys, List.flatMap_cons, List.mapM_append, ih hrest,
            mapKeys, he set hkeys]
          cases set.rows.mapM (mapRow mapper columns) with
          | none => rfl
          | some keys => cases executions.mapM fun e => mapKeys mapper e.keys <;> rfl

/-- What is mapped of a batch is what its rows generate. -/
theorem Procedure.collected_of_executions {p : Procedure} {mapper : RowMapper α}
    {columns : List Column} (hcolumns : p.KeysIn columns) {table : Table} {rows : List (List Value)}
    {executions : List (Execution (ResultSet Value) Value)}
    (h : p.executions table rows = some executions) :
    p.collected mapper table rows =
      mapKeys mapper (ResultSet.merge (executions.filterMap (·.keys))) := by
  have hsame : ∀ e ∈ executions, ∀ set, e.keys = some set → set.columns = columns := by
    intro e he set hset
    obtain ⟨table, values, table', hrun⟩ := Procedure.mem_executions h e he
    exact hcolumns hrun hset
  rw [mapKeys_filterMap hsame]
  unfold Procedure.collected
  rw [h]
  simp only [Option.bind_eq_bind, Option.bind_some]
  cases executions.mapM fun e => mapKeys mapper e.keys <;> rfl

namespace Memory

variable {k : CursorId} {i : StatementId} {s : Session Memory} {mapper : RowMapper α}

/-! ## Cursors -/

theorem readRow_run (reading : CellReading Error α) (s : Session Memory) :
    (driver.readRow k reading).run s = (reading.run.eval (s.database.cursor k).answer, s) := by
  have run {β : Type} (p : Reading CellRead CellRead.Answer β) :
      p.run (driver.answerCell k) s = (p.eval (s.database.cursor k).answer, s) := by
    induction p with
    | done b => rfl
    | ask r next ih => cases r <;> exact ih _
  exact run reading.run

/-- A row that is read comes to what its mapper makes of its cells. -/
theorem readRow_mapped {columns : List Column} {cells : List Value} {s' : Session Memory}
    {r : Except Error α} (hrow : (s.database.cursor k).row = some cells)
    (h : (driver.readRow k (mapper (.ofColumns columns))).run s = (r, s')) :
    s' = s ∧ r.toOption = mapRow mapper columns cells := by
  have hanswer : (s.database.cursor k).answer =
      CursorState.answer { columns, row := some cells, ahead := [] } :=
    CursorState.answer_of_row hrow
  rw [readRow_run, hanswer] at h
  cases h
  exact ⟨rfl, rfl⟩

theorem next_run (h : (s.database.cursor k).closed = false) :
    (driver.perform (.next k)).run s = (.ok (s.database.cursor k).next.1,
      { s with database := s.database.putCursor k (s.database.cursor k).next.2 }) := by
  refine Driver.perform_run ?_
  change s.database.next k = _
  unfold Memory.next
  simp [h]

/-- A cursor that has moved on is on the row that was the first ahead. -/
theorem next_moved {s' : Session Memory} {moved : Bool} (h : (s.database.cursor k).closed = false)
    (hn : (driver.perform (.next k)).run s = (.ok moved, s')) :
    (s.database.cursor k).next = (moved, s'.database.cursor k) := by
  rw [next_run h] at hn
  cases hn
  change _ = (_, (s.database.putCursor k _).cursor k)
  rw [cursor_putCursor, if_pos rfl]

theorem keyRow_run {known : Option Row}
    (h : ∀ row ∈ known, row = .ofColumns (s.database.cursor k).columns) :
    (driver.keyRow k known).run s = (.ok (.ofColumns (s.database.cursor k).columns), s) := by
  cases known with
  | none => rfl
  | some row =>
      rw [← h row rfl]
      rfl

/-- The rows ahead of a cursor are mapped in order, up to the first that cannot be. -/
theorem drainRows_toOption {known : Option Row} (hopen : (s.database.cursor k).closed = false)
    (hknown : ∀ row ∈ known, row = .ofColumns (s.database.cursor k).columns) :
    (driver.drainRows mapper k known s).1.toOption =
      (s.database.cursor k).ahead.mapM (mapRow mapper (s.database.cursor k).columns) := by
  fun_induction driver.drainRows mapper k known s with
  | case1 known s f s₁ hn =>
      rw [next_run hopen] at hn
      cases hn
  | case2 known s s₁ hn =>
      have hmoved := next_moved hopen hn
      unfold CursorState.next at hmoved
      split at hmoved
      · cases hmoved
      · rename_i hahead
        rw [hahead]
        rfl
  | case3 known s s₁ hn f s₂ hr =>
      obtain ⟨cells, -, -, hcolumns, -⟩ := CursorState.next_true (next_moved hopen hn)
      rw [keyRow_run (hcolumns ▸ hknown)] at hr
      cases hr
  | case4 known s s₁ hn row s₂ hr e s₃ hm =>
      obtain ⟨cells, hahead, hrow, hcolumns, -⟩ := CursorState.next_true (next_moved hopen hn)
      rw [keyRow_run (hcolumns ▸ hknown)] at hr
      cases hr
      obtain ⟨-, hmapped⟩ := readRow_mapped hrow hm
      rw [hahead, List.mapM_cons, ← hcolumns, ← hmapped]
      rfl
  | case5 known s s₁ hn row s₂ hr a s₃ hm rest s₄ hrest ih =>
      obtain ⟨cells, hahead, hrow, hcolumns, hclosed⟩ := CursorState.next_true (next_moved hopen hn)
      rw [keyRow_run (hcolumns ▸ hknown)] at hr
      cases hr
      obtain ⟨rfl, hmapped⟩ := readRow_mapped hrow hm
      have hleft := ih (hclosed.trans hopen) fun row hrow => (Option.some.inj hrow).symm
      rw [hrest] at hleft
      rw [hahead, List.mapM_cons, ← hcolumns, ← hmapped, ← hleft]
      cases rest <;> rfl

/-- A cursor that is drained can always be closed. -/
theorem drain_toOption (hopen : (s.database.cursor k).closed = false) :
    ((driver.drain mapper k).run s).1.toOption =
      (s.database.cursor k).ahead.mapM (mapRow mapper (s.database.cursor k).columns) := by
  have hdrained : (driver.drainRows mapper k none s).1.toOption = _ :=
    drainRows_toOption hopen nofun
  rw [← hdrained]
  generalize hrows : driver.drainRows mapper k none s = result
  obtain ⟨rows, s₁⟩ := result
  unfold Driver.drain
  rw [run_bind_of_ok (run_lift hrows)]
  cases rows <;> rfl

/-! ## Statements -/

def Requested (i : StatementId) (s : Session Memory) : Prop :=
  (s.database.statement i).keysRequested = true

theorem openKeys_run (h : Requested i s) :
    ∃ s', (driver.openKeys i).run s = (.ok ⟨s.cursors + 1⟩, s') ∧
      s'.database.cursor ⟨s.cursors + 1⟩ =
        .ofSet ((s.database.statement i).results.keys.getD ⟨[⟨"ID", .bigInt⟩], []⟩) ∧
      Requested i s' := by
  have hget : (get : Act Memory Failure (Session Memory)).run s = (.ok s, s) := rfl
  have hcall := Driver.perform_run (d := driver) (c := .generatedKeys i ⟨s.cursors + 1⟩) (s := s)
    (if_pos h)
  refine ⟨_, (run_bind_of_ok hget).trans (run_bind_of_ok hcall), ?_, ?_⟩
  · change (Memory.putCursor _ _ _).cursor _ = _
    rw [cursor_putCursor, if_pos rfl]
  · change ((Memory.putStatement _ i _).statement i).keysRequested = true
    rw [statement_putStatement, if_pos rfl]
    exact h

theorem readKeys_toOption (h : Requested i s) :
    ((driver.readKeys i mapper).run s).1.toOption =
      mapKeys mapper (s.database.statement i).results.keys := by
  obtain ⟨s₁, hrun, hcursor, -⟩ := openKeys_run h
  unfold Driver.readKeys
  rw [run_bind_of_ok (surfaced_run hrun), drain_toOption (by rw [hcursor]; rfl), hcursor]
  cases (s.database.statement i).results.keys <;> rfl

theorem requested_cursor {c : Call} (hc : c.WorksOn (.cursor k)) :
    Keeps (Requested i) (driver.perform c) := by
  have hkept (db : Memory) : (call c db).2.statement i = db.statement i := by
    obtain ⟨hhandle, hmoves⟩ := hc
    cases c with
    | next =>
        simp only [call, next]
        split <;> rfl
    | closeCursor => cases hmoves
    | columns | getObject | getBinaryStream | getCharacterStream => rfl
    | _ => cases hhandle
  refine Secures.of_run fun s hs => ?_
  exact (congrArg MemoryStatement.keysRequested (hkept s.database)).trans hs

theorem requested_readKeys : Keeps (Requested i) (driver.readKeys i mapper) := by
  have opened : Keeps (Requested i) (driver.openKeys i) := by
    intro s hs
    obtain ⟨s₁, hrun, -, hs₁⟩ := openKeys_run hs
    rw [hrun]
    exact hs₁
  refine Secures.bind opened.surfaced fun k => ?_
  refine Driver.drain_secures (M := fun _ => Requested i) (R := fun _ => Requested i) ?_ fun _ => ?_
  · exact Keeps.drainRows (fun c hc => requested_cursor hc) mapper none
  · refine Secures.of_run fun s hs => ?_
    change ((s.database.closeCursor k).statement i).keysRequested = true
    unfold closeCursor
    dsimp only
    split <;> exact hs

end Memory

end Database

end SqlGateway
