import SqlGateway.Cursor.Map
import SqlGateway.Proofs.Act.Run

/-!
# States of a result cursor

A result cursor is open on its statement, or it is spent. The flag, the statement and what is kept
of the rows say so independently; in every state that a cursor comes to they agree.
-/

namespace SqlGateway

variable {σ τ : Type}

namespace ResultCursor

/-- What is left of a cursor that was released. -/
def spent (cursor : ResultCursor τ) : ResultCursor τ :=
  { cursor with statement := none, current := none, row := none, closed := true }

/-- A cursor that owns nothing any more. -/
structure Spent (cursor : ResultCursor τ) : Prop where
  closed : cursor.closed = true
  statement : cursor.statement = none
  current : cursor.current = none

/-- A cursor that is open on the statement. Once its set is described there is a row to show. -/
structure On (i : StatementId) (cursor : ResultCursor τ) : Prop where
  closed : cursor.closed = false
  statement : cursor.statement = some i
  described : cursor.stale = false → cursor.row.isSome

def Sound (cursor : ResultCursor τ) : Prop :=
  cursor.Spent ∨ ∃ i, cursor.On i

variable {cursor : ResultCursor τ} {i : StatementId} {c : CursorId}

theorem spent_spent (cursor : ResultCursor τ) : cursor.spent.Spent :=
  ⟨rfl, rfl, rfl⟩

theorem on_ofStatement (i : StatementId) (current : Option CursorId) :
    (ofStatement i current : ResultCursor τ).On i :=
  ⟨rfl, rfl, nofun⟩

theorem On.withHandler (h : cursor.On i) (slots : List OutSlot) (mapper : Option (OutMapper τ)) :
    (cursor.withHandler slots mapper).On i :=
  ⟨h.closed, h.statement, h.described⟩

/-- A row of another set makes a cursor stale. -/
theorem On.moved (h : cursor.On i) {stale : Bool} (hstale : cursor.stale = true → stale = true) :
    ({ cursor with current := some c, stale } : ResultCursor τ).On i where
  closed := h.closed
  statement := h.statement
  described hs := h.described (Bool.eq_false_iff.mpr fun ht => by rw [hstale ht] at hs; cases hs)

theorem On.held (h : cursor.On i) (held : Option CursorId) :
    ({ cursor with current := held } : ResultCursor τ).On i :=
  ⟨h.closed, h.statement, h.described⟩

theorem On.handled (h : cursor.On i) (handler : OutHandler τ) :
    ({ cursor with handler } : ResultCursor τ).On i :=
  ⟨h.closed, h.statement, h.described⟩

theorem On.describe (h : cursor.On i) (columns : List Column) : (cursor.describe columns).On i where
  closed := h.closed
  statement := h.statement
  described _ := by
    unfold ResultCursor.describe
    cases cursor.row <;> rfl

theorem On.sound (h : cursor.On i) : cursor.Sound :=
  .inr ⟨i, h⟩

/-! ## What a sound cursor says of itself -/

theorem Sound.closed_iff (h : cursor.Sound) : cursor.closed = true ↔ cursor.statement = none := by
  obtain h | ⟨i, h⟩ := h
  · exact iff_of_true h.closed h.statement
  · rw [h.closed, h.statement]
    exact iff_of_false nofun nofun

theorem Sound.spent (h : cursor.Sound) (hc : cursor.closed = true) : cursor.Spent :=
  h.resolve_right fun ⟨_, h⟩ => absurd (hc.symm.trans h.closed) nofun

/-- Where no row is to be described, one is shown. -/
theorem On.currentRow?_eq (h : cursor.On i) (hs : cursor.stale = false)
    (hc : cursor.current = some c) :
    ∃ row, cursor.row = some row ∧ cursor.currentRow? = some ⟨c, row⟩ := by
  obtain ⟨row, hrow⟩ := Option.isSome_iff_exists.mp (h.described hs)
  refine ⟨row, hrow, ?_⟩
  unfold currentRow?
  rw [hc, hrow]

theorem currentRow?_describe (cursor : ResultCursor τ) (hc : cursor.current = some c)
    (columns : List Column) :
    ∃ row, (cursor.describe columns).row = some row ∧
      (cursor.describe columns).currentRow? = some ⟨c, row⟩ := by
  obtain ⟨statement, current, known, stale, slots, handler, closed⟩ := cursor
  obtain rfl : current = some c := hc
  cases known <;> exact ⟨_, rfl, rfl⟩

end ResultCursor

/-! ## Moves -/

namespace Driver

variable {d : Driver σ} {cursor : ResultCursor τ} {i : StatementId} {c : CursorId}

theorem release_spent (cursor : ResultCursor τ) (s : Session σ) :
    (d.release cursor s).1 = cursor.spent := by
  obtain ⟨statement, current, _⟩ := cursor
  cases statement <;> cases current <;> rfl

/-- A search that starts on a stale set, or goes past its end, does not end on another. -/
theorem stale_of_seek {statement : Option StatementId} {current : Option CursorId}
    {stale stale' : Bool} {s s' : Session σ}
    (h : d.seek statement current stale s = (.row c stale', s')) (hs : stale = true) :
    stale' = true := by
  fun_induction d.seek statement current stale s with
  | case1 stale s c' s₁ hn =>
      cases h
      exact hs
  | case2 stale s c' s₁ hn s₂ a hc ih => exact ih h hs
  | case5 stale s j hj s₁ hm c' s₂ ho ih => exact ih h rfl
  | case6 stale s j hj s₁ hm s₂ ho ih => exact ih h hs
  | case3 | case4 | case7 | case8 | case9 | case10 => cases h

/-- What holds after a search, and what is known of the set in which it has ended. -/
theorem sought {P : Session σ → Prop} {Q : Sought → Session σ → Prop}
    {statement : Option StatementId} {current : Option CursorId} {stale : Bool}
    (h : Triple P (d.seek statement current stale) Q) :
    Triple P (d.seek statement current stale) fun r s =>
      (∀ c stale', r = .row c stale' → stale = true → stale' = true) ∧ Q r s :=
  fun s hs => ⟨fun _ _ hr => stale_of_seek (Prod.ext hr rfl), h s hs⟩

theorem nextRow_of_closed (h : cursor.closed = true) :
    d.nextRow cursor = pure (.ok none, cursor) :=
  if_pos h

theorem nextRow_on (h : cursor.On i) :
    d.nextRow cursor = (do
      match ← d.seek (some i) cursor.current cursor.stale with
      | .row c stale => d.describeRow { cursor with current := some c, stale }
      | .exhausted => d.finish { cursor with current := none }
      | .failed f held => d.failCursor { cursor with current := held } f) := by
  unfold nextRow
  rw [h.closed, h.statement]
  rfl

/-- A set that is described, or none, needs no question. -/
theorem describeRow_known (h : cursor.stale = true → cursor.current = none) :
    d.describeRow cursor = pure (.ok cursor.currentRow?, cursor) := by
  obtain ⟨statement, current, known, stale, slots, handler, closed⟩ := cursor
  cases stale with
  | false => rfl
  | true =>
      obtain rfl : current = none := h rfl
      rfl

theorem refreshRow_stale (hs : cursor.stale = true) (hc : cursor.current = some c) :
    d.refreshRow cursor = (do return cursor.describe (← d.perform (.columns c))) := by
  unfold refreshRow
  rw [hs, hc]

theorem describeRow_stale (hs : cursor.stale = true) (hc : cursor.current = some c) :
    d.describeRow cursor = (do
      match ← (d.perform (.columns c)).run with
      | .ok columns =>
        return (.ok (cursor.describe columns).currentRow?, cursor.describe columns)
      | .error f => d.failCursor cursor f) := by
  funext s
  generalize hp : (d.perform (.columns c)).run s = described
  obtain ⟨answer, s'⟩ := described
  unfold describeRow
  rw [refreshRow_stale hs hc, bind_of_run hp]
  cases answer with
  | ok columns =>
      have hr : (do return cursor.describe (← d.perform (.columns c)) : Act σ Failure _).run s =
          (.ok (cursor.describe columns), s') := run_bind_of_ok hp
      rw [bind_of_run hr]
  | error f => rw [bind_of_run (run_bind_of_error hp)]

/-! ## Closing -/

/-- A cursor that is closed is dropped without a call. -/
theorem close_eq (cursor : ResultCursor τ) :
    d.close cursor = (do
      let first ← match cursor.current with
        | some c => ExceptT.lift (surfaced (d.perform (.closeCursor c))).run
        | none => pure (.ok ())
      let second ← match cursor.statement with
        | some i => ExceptT.lift (surfaced (d.perform (.closeStatement i))).run
        | none => pure (.ok ())
      MonadExcept.ofExcept first
      MonadExcept.ofExcept second) :=
  rfl

/-! ## The handler -/

theorem fireHandler_armed (h : cursor.On i) {mapper : OutMapper τ}
    (hh : cursor.handler = .armed mapper) :
    d.fireHandler cursor = (do
      match ← (d.readOut i (mapper cursor.slots)).run with
      | .ok value => return (.ok (), { cursor with handler := .fired (some value) })
      | .error error => return (.error error, { cursor with handler := .fired none })) := by
  obtain ⟨statement, current, row, stale, slots, handler, closed⟩ := cursor
  obtain rfl : handler = .armed mapper := hh
  obtain rfl : statement = some i := h.statement
  rfl

theorem fireHandler_silent (cursor : ResultCursor τ)
    (hh : ∀ mapper, cursor.handler ≠ .armed mapper) :
    d.fireHandler cursor = pure (.ok (), cursor) := by
  unfold fireHandler
  cases h : cursor.handler with
  | armed mapper => exact absurd h (hh mapper)
  | unarmed | fired delivered => rfl

end Driver

end SqlGateway
