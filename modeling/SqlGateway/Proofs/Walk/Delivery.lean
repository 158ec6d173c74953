import SqlGateway.Proofs.Act.Run
import SqlGateway.Proofs.Walk.Turn
import SqlGateway.Proofs.Walk.View

/-!
# Rows are delivered in order

With the results of the driver in view, each turn of a walk delivers the first of the rows that are
left, with the columns of its own set, and a walk comes to its end only when none are left.
-/

namespace SqlGateway

open Database

variable {σ τ κ α : Type} {d : Driver σ} {view : ResultView d κ}

/-! ## Calls -/

theorem call_of_perform {c : Call} {s s' : Session σ} {r : Except Failure c.Answer}
    (h : (d.perform c).run s = (r, s')) : d.call c s.database = (r, s'.database) := by
  cases h
  rfl

theorem call_of_openCursor {i : StatementId} {s s' : Session σ} {current : Option CursorId}
    (h : (d.openCursor i).run s = (.ok current, s')) :
    ∃ c opened, d.call (.resultCursor i c) s.database = (.ok opened, s'.database) ∧
      current = if opened then some c else none := by
  obtain ⟨answer, s₁, ho, ⟨f, -, hr, -⟩ | ⟨rfl, hr, rfl⟩ | ⟨rfl, hr, rfl⟩⟩ := openCursor_run h
  · cases hr
  · exact ⟨_, false, call_of_perform ho, Except.ok.inj hr⟩
  · have hcall := call_of_perform ho
    exact ⟨_, true, hcall, Except.ok.inj hr⟩

/-! ## Looking for a row -/

/-- The cursor is on a row that was the first of these, and the others are left. -/
def ResultView.Reached (view : ResultView d κ) (i : StatementId) (rows : List (SeenRow κ)) (s : σ)
    (c : CursorId) : Prop :=
  ∃ cells, (view.cursor s c).row = some cells ∧
    rows = (Row.ofColumns (view.cursor s c).columns, cells) :: view.left s i (some c)

theorem ResultView.Reached.of_eq {i : StatementId} {rows : List (SeenRow κ)} {s s' : σ}
    {c : CursorId} (h : view.Reached i rows s c) (hcursor : view.cursor s' c = view.cursor s c)
    (hleft : view.left s' i (some c) = view.left s i (some c)) : view.Reached i rows s' c := by
  obtain ⟨cells, hrow, hrows⟩ := h
  exact ⟨cells, by rw [hcursor, hrow], by rw [hcursor, hleft, hrows]⟩

/-- Where a search leads if these rows were left before it. -/
def ResultView.Leads (view : ResultView d κ) (i : StatementId) (rows : List (SeenRow κ)) (s : σ) :
    Sought → Prop
  | .row c _ => view.Reached i rows s c
  | .exhausted => rows = []
  | .failed _ _ => True

theorem seek_leads (view : ResultView d κ) (i : StatementId) (current : Option CursorId)
    (switched : Bool) (s : Session σ) :
    view.Leads i (view.left s.database i current) (d.seek (some i) current switched s).2.database
      (d.seek (some i) current switched s).1 := by
  fun_induction d.seek (some i) current switched s with
  | case1 switched s c s' hn => exact (ResultView.left_of_next_true (call_of_perform hn)).2
  | case2 switched s c s' hn s'' a hc ih =>
      rw [ResultView.left_of_next_false (call_of_perform hn),
        ResultView.left_of_closeCursor (call_of_perform hc)]
      exact ih
  | case3 | case4 | case7 | case9 => trivial
  | case5 switched s j hj s' hm c s'' ho ih =>
      cases hj
      obtain ⟨c', opened, hcall, hcurrent⟩ := call_of_openCursor ho
      rw [ResultView.left_of_moreResults_true (call_of_perform hm),
        ResultView.left_of_resultCursor hcall, ← hcurrent]
      exact ih
  | case6 switched s j hj s' hm s'' ho ih =>
      cases hj
      obtain ⟨c', opened, hcall, hcurrent⟩ := call_of_openCursor ho
      rw [ResultView.left_of_moreResults_true (call_of_perform hm),
        ResultView.left_of_resultCursor hcall, ← hcurrent]
      exact ih
  | case8 switched s j hj s' hm =>
      cases hj
      exact ResultView.left_of_moreResults_false (call_of_perform hm)
  | case10 switched s hj => cases hj

/-- A search that has opened no other set has only moved on to the next row. -/
theorem next_of_seek {i : StatementId} {current : Option CursorId} {switched : Bool}
    {s s' : Session σ} {c : CursorId}
    (h : d.seek (some i) current switched s = (.row c false, s')) :
    current = some c ∧ switched = false ∧ (d.perform (.next c)).run s = (.ok true, s') := by
  fun_induction d.seek (some i) current switched s with
  | case1 switched s c' s₁ hn =>
      cases h
      exact ⟨rfl, rfl, hn⟩
  | case2 switched s c' s₁ hn s₂ a hc ih => cases (ih h).1
  | case5 switched s j hj s₁ hm c' s₂ ho ih => cases (ih h).2.1
  | case6 switched s j hj s₁ hm s₂ ho ih => cases (ih h).1
  | case3 | case4 | case7 | case8 | case9 | case10 => cases h

/-! ## Describing a row -/

/-- The row of a result cursor has the readers of its columns and, until another set is opened, the
columns of the set that is open. -/
structure ResultView.Described (view : ResultView d κ) (s : σ)
    (cursor : ResultCursor τ) : Prop where
  readers : ∀ row, cursor.row = some row → row = .ofColumns row.columns
  columns : ∀ row c, cursor.row = some row → cursor.stale = false → cursor.current = some c →
    row.columns = (view.cursor s c).columns

/-- The readers are those of the columns also where they were kept from another set. -/
theorem describe_eq {cursor : ResultCursor τ} {columns : List Column}
    (h : ∀ row, cursor.row = some row → row = .ofColumns row.columns) :
    cursor.describe columns =
      { cursor with row := some (.ofColumns columns), stale := false } := by
  have same {known : Row} (hknown : known = .ofColumns known.columns)
      (hsame : known.sameTypes columns = true) :
      ({ known with columns } : Row) = .ofColumns columns := by
    have htypes : known.columns.map (·.type) = columns.map (·.type) := by
      simpa [Row.sameTypes] using hsame
    have hreaders : known.readers = columns.map (·.type.reader) := by
      rw [hknown]
      simpa [Row.ofColumns, Function.comp_def] using congrArg (List.map SqlType.reader) htypes
    simp only [Row.ofColumns, hreaders]
  obtain ⟨statement, current, known, stale, slots, handler, closed⟩ := cursor
  cases known with
  | none => rfl
  | some known =>
      unfold ResultCursor.describe
      dsimp only
      split
      · rename_i hsame
        rw [same (h known rfl) hsame]
      · rfl

/-- What a move gives if these rows were left before it. -/
def ResultView.Gives (view : ResultView d κ) (i : StatementId) (rows : List (SeenRow κ))
    (cursor : ResultCursor τ) (s : σ) (cursor' : ResultCursor τ) :
    Except Error (Option CurrentRow) → Prop
  | .ok (some current) => view.Reached i rows s current.cursor ∧
      current.row = .ofColumns (view.cursor s current.cursor).columns ∧
      cursor'.current = some current.cursor ∧
      view.Described s cursor'
  | .ok none => rows = []
  | .error _ => cursor'.handler = cursor.handler ∨ rows = []

theorem failCursor_handler {cursor cursor' : ResultCursor τ} {f : Failure} {s s' : Session σ}
    {r : Except Error (Option CurrentRow)} (h : d.failCursor cursor f s = ((r, cursor'), s')) :
    (∃ e, r = .error e) ∧ cursor'.handler = cursor.handler := by
  have hdebug (text : String) : Session.debug text s = ((), (Session.debug text s).2) := rfl
  unfold Driver.failCursor at h
  rw [bind_of_run (hdebug _), bind_of_run (Prod.ext (Driver.release_spent cursor _) rfl)] at h
  cases h
  exact ⟨⟨_, rfl⟩, rfl⟩

/-- A row whose set has been described before needs no call. -/
theorem describeRow_described {cursor : ResultCursor τ} {c : CursorId} {row : Row}
    (hrow : cursor.row = some row) (hs : cursor.stale = false) (hc : cursor.current = some c)
    (s : Session σ) : d.describeRow cursor s = ((.ok (some ⟨c, row⟩), cursor), s) := by
  rw [Driver.describeRow_known fun ht => absurd (hs.symm.trans ht) nofun]
  unfold ResultCursor.currentRow?
  rw [hrow, hc]
  rfl

section

variable (cursor : ResultCursor τ) {c : CursorId} (hs : cursor.stale = true)
  (hc : cursor.current = some c) {s s' : Session σ}
include hs hc

theorem describeRow_ok (hreaders : ∀ row, cursor.row = some row → row = .ofColumns row.columns)
    {columns : List Column} (hp : (d.perform (.columns c)).run s = (.ok columns, s')) :
    d.describeRow cursor s = ((.ok (some ⟨c, .ofColumns columns⟩),
      { cursor with row := some (.ofColumns columns), stale := false }), s') := by
  rw [Driver.describeRow_stale hs hc, bind_of_run hp]
  dsimp only
  rw [describe_eq hreaders]
  unfold ResultCursor.currentRow?
  rw [hc]
  rfl

theorem describeRow_error {f : Failure}
    (hp : (d.perform (.columns c)).run s = (.error f, s')) :
    d.describeRow cursor s = d.failCursor cursor f s' := by
  rw [Driver.describeRow_stale hs hc, bind_of_run hp]

theorem describeRow_unknown {cursor' : ResultCursor τ} {r : Except Error (Option CurrentRow)}
    (hreaders : ∀ row, cursor.row = some row → row = .ofColumns row.columns)
    (h : d.describeRow cursor s = ((r, cursor'), s')) :
    (∃ columns, (d.perform (.columns c)).run s = (.ok columns, s') ∧
        r = .ok (some ⟨c, .ofColumns columns⟩) ∧
        cursor' = { cursor with row := some (.ofColumns columns), stale := false }) ∨
      (∃ e, r = .error e) ∧ cursor'.handler = cursor.handler := by
  generalize hp : (d.perform (.columns c)).run s = result
  obtain ⟨answer, s₁⟩ := result
  cases answer with
  | ok columns =>
      rw [describeRow_ok cursor hs hc hreaders hp] at h
      cases h
      exact .inl ⟨columns, rfl, rfl, rfl⟩
  | error f =>
      rw [describeRow_error cursor hs hc hp] at h
      exact .inr (failCursor_handler h)

end

theorem describeRow_gives {cursor cursor' : ResultCursor τ} {i : StatementId} {c : CursorId}
    {rows : List (SeenRow κ)} {s s' : Session σ} {r : Except Error (Option CurrentRow)}
    (hi : cursor.On i) (hc : cursor.current = some c)
    (hrows : view.Reached i rows s.database c) (hd : view.Described s.database cursor)
    (h : d.describeRow cursor s = ((r, cursor'), s')) :
    view.Gives i rows cursor s'.database cursor' r := by
  cases hs : cursor.stale with
  | true =>
      obtain ⟨columns, hp, rfl, rfl⟩ | ⟨⟨e, rfl⟩, hh⟩ :=
        describeRow_unknown cursor hs hc hd.readers h
      · have hcall := call_of_perform hp
        have hreads := ResultView.left_of_reads view (i := i)
          (⟨rfl, rfl⟩ : (Call.columns c).WorksOn (.cursor c)) nofun s.database
        rw [hcall] at hreads
        have hcolumns : columns = (view.cursor s'.database c).columns := by
          rw [hreads.1]
          exact view.columns hcall
        refine ⟨hrows.of_eq hreads.1 hreads.2, by rw [hcolumns], hc, ?_, ?_⟩
        · intro row hrow
          cases hrow
          rfl
        · intro row c' hrow _ hc'
          cases hrow
          obtain rfl : c = c' := Option.some.inj (hc.symm.trans hc')
          exact hcolumns
      · exact .inl hh
  | false =>
      obtain ⟨row, hrow⟩ := Option.isSome_iff_exists.mp (hi.described hs)
      rw [describeRow_described hrow hs hc] at h
      cases h
      refine ⟨hrows, ?_, hc, hd⟩
      rw [← hd.columns row c hrow hs hc]
      exact hd.readers row hrow

/-! ## Moves and turns -/

theorem finish_gives {cursor cursor' : ResultCursor τ} {i : StatementId} {s s' : Session σ}
    {r : Except Error (Option CurrentRow)} (h : d.finish cursor s = ((r, cursor'), s')) :
    view.Gives i [] cursor s'.database cursor' r := by
  rcases r with e | _ | current
  · exact .inr rfl
  · exact rfl
  · exact absurd (congrArg (·.1.1) h) (Driver.finish_ne_row cursor s current)

theorem ResultView.Gives.of_handler {i : StatementId} {rows : List (SeenRow κ)} {s : σ}
    {cursor cursor₁ cursor' : ResultCursor τ} {r : Except Error (Option CurrentRow)}
    (h : view.Gives i rows cursor₁ s cursor' r) (hh : cursor₁.handler = cursor.handler) :
    view.Gives i rows cursor s cursor' r := by
  rcases r with e | _ | current
  · exact h.imp_left fun h => h.trans hh
  · exact h
  · exact h

theorem nextRow_gives {cursor cursor' : ResultCursor τ} {i : StatementId} {s s' : Session σ}
    {r : Except Error (Option CurrentRow)} (hi : cursor.On i)
    (hd : view.Described s.database cursor) (h : d.nextRow cursor s = ((r, cursor'), s')) :
    view.Gives i (view.left s.database i cursor.current) cursor s'.database cursor' r := by
  have hleads := seek_leads view i cursor.current cursor.stale s
  rw [Driver.nextRow_on hi] at h
  generalize hsought : d.seek (some i) cursor.current cursor.stale s = result at hleads
  obtain ⟨sought, s₁⟩ := result
  rw [bind_of_run hsought] at h
  cases sought with
  | row c switched =>
      refine (describeRow_gives (hi.moved (Driver.stale_of_seek hsought)) rfl hleads
        ?_ h).of_handler rfl
      refine ⟨hd.readers, ?_⟩
      intro row c' hrow hswitched hc'
      obtain rfl : c = c' := Option.some.inj hc'
      obtain rfl : switched = false := hswitched
      obtain ⟨hcurrent, hstale, hn⟩ := next_of_seek hsought
      rw [(ResultView.left_of_next_true (i := i) (call_of_perform hn)).1]
      exact hd.columns row c hrow hstale hcurrent
  | exhausted =>
      have hleft : view.left s.database i cursor.current = [] := hleads
      rw [hleft]
      exact (finish_gives h).of_handler rfl
  | failed f held =>
      obtain ⟨⟨e, rfl⟩, hh⟩ := failCursor_handler h
      exact .inl hh

/-- The row that a turn has reached, as it was seen. -/
def ResultView.seen (view : ResultView d κ) (g : Given σ α) : Option (Row × Option (List κ)) :=
  g.reached.map fun r => (r.1.row, (view.cursor r.2.database r.1.cursor).row)

/-- What a turn gives if these rows were left before it. -/
inductive ResultView.Takes (view : ResultView d κ) (i : StatementId) (rows : List (SeenRow κ))
    (cursor : ResultCursor τ) (s : σ) (cursor' : ResultCursor τ) : Given σ α → Prop
  | row {current : CurrentRow} {seen : Session σ} {read : Except Error α} {cells : List κ}
      (hrow : (view.cursor seen.database current.cursor).row = some cells)
      (hrows : rows = (current.row, cells) :: view.left s i cursor'.current)
      (hd : view.Described s cursor') : Takes view i rows cursor s cursor' (.row current seen read)
  | unmapped {current : CurrentRow} {seen : Session σ} {e : Error} {cells : List κ}
      {rest : List (SeenRow κ)}
      (hrow : (view.cursor seen.database current.cursor).row = some cells)
      (hrows : rows = (current.row, cells) :: rest) :
      Takes view i rows cursor s cursor' (.unmapped current seen e)
  | ended (hrows : rows = []) : Takes view i rows cursor s cursor' .ended
  | failed {e : Error} (h : cursor'.handler = cursor.handler ∨ rows = []) :
      Takes view i rows cursor s cursor' (.failed e)

/-- Reading cells moves nothing. -/
theorem left_of_readRow (view : ResultView d κ) {c : CursorId} {reading : CellReading Error α}
    {s s' : Session σ} {r : Except Error α} (i : StatementId)
    (h : (d.readRow c reading).run s = (r, s')) :
    view.cursor s'.database c = view.cursor s.database c ∧
      view.left s'.database i (some c) = view.left s.database i (some c) := by
  let P (t : Session σ) : Prop := view.cursor t.database c = view.cursor s.database c ∧
    view.left t.database i (some c) = view.left s.database i (some c)
  have read (call : Call) (hw : call.WorksOn (.cursor c)) (hn : call ≠ .next c) :
      Keeps P (d.perform call) := by
    have stays (t : Session σ) (ht : P t) :
        P { t with database := (d.call call t.database).2 } := by
      have hreads := ResultView.left_of_reads view (i := i) hw hn t.database
      exact ⟨hreads.1.trans ht.1, hreads.2.trans ht.2⟩
    apply d.perform_secures
    · intro t answer database hcall ht
      have := stays t ht
      rwa [hcall] at this
    · intro t f database hcall ht
      have := stays t ht
      rwa [hcall] at this
  refine Triple.of_run (P := P) (Triple.reading (fun r => ?_) reading.run) ⟨rfl, rfl⟩ h
  cases r with
  | object index => exact read _ ⟨rfl, rfl⟩ nofun
  | binaryStream index => exact read _ ⟨rfl, rfl⟩ nofun
  | characterStream index => exact read _ ⟨rfl, rfl⟩ nofun

theorem useRow_takes_view (turn : Turn α) {cursor cursor₁ cursor' : ResultCursor τ}
    {i : StatementId} {current : CurrentRow} {rows : List (SeenRow κ)} {s s' : Session σ}
    {g : Given σ α} (hgives : view.Gives i rows cursor s.database cursor₁ (.ok (some current)))
    (h : d.useRow current cursor₁ s turn = ((g, cursor'), s')) :
    view.Takes i rows cursor s'.database cursor' g := by
  obtain ⟨⟨cells, hrow, hrows⟩, hcolumns, hcurrent, hd⟩ := hgives
  rw [← hcolumns] at hrows
  -- a row that is read leaves the cursor where it was
  have row {reading : CellReading Error α} {read : Except Error α} {s₁ : Session σ}
      (hr : (d.readRow current.cursor reading).run s = (read, s₁)) :
      view.Takes i rows cursor s₁.database cursor₁ (.row current s read) := by
    obtain ⟨hcursor, hleft⟩ := left_of_readRow view i hr
    refine .row hrow (by rw [hrows, hcurrent, hleft]) ⟨hd.readers, ?_⟩
    intro row c hknown hstale hc
    obtain rfl : current.cursor = c := Option.some.inj (hcurrent.symm.trans hc)
    rw [hcursor]
    exact hd.columns row _ hknown hstale hc
  cases turn with
  | next reading =>
      generalize hr : (d.readRow current.cursor (reading current.row)).run s = result
      obtain ⟨read, s₁⟩ := result
      simp only [Driver.useRow, hr] at h
      cases h
      exact row hr
  | map mapper =>
      generalize hr : (d.readRow current.cursor (mapper current.row)).run s = result
      obtain ⟨read, s₁⟩ := result
      simp only [Driver.useRow, hr] at h
      cases read with
      | ok a =>
          cases h
          exact row hr
      | error e =>
          cases h
          exact .unmapped hrow hrows

theorem takeTurn_takes_view (turn : Turn α) {cursor cursor' : ResultCursor τ} {i : StatementId}
    {s s' : Session σ} {g : Given σ α} (hi : cursor.On i)
    (hd : view.Described s.database cursor)
    (h : d.takeTurn turn cursor s = ((g, cursor'), s')) :
    view.Takes i (view.left s.database i cursor.current) cursor s'.database cursor' g := by
  generalize hr : d.nextRow cursor s = result
  obtain ⟨⟨r, cursor₁⟩, s₁⟩ := result
  have hgives := nextRow_gives hi hd hr
  simp only [Driver.takeTurn, hr] at h
  rcases r with e | _ | current
  · cases h
    exact .failed hgives
  · cases h
    exact .ended hgives
  · exact useRow_takes_view turn hgives h

end SqlGateway
