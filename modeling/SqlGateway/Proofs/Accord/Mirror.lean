import SqlGateway.Proofs.Accord.Cursor

/-!
# Mirrored cursors

What is left to be fetched from a statement may be the same in two sessions, though the set of rows
that is open on it goes by different names. A result cursor over the statement then brings the same
in both.
-/

namespace SqlGateway

variable {σ τ α : Type} {d : Driver σ}

theorem Abreast.reading {ρ : Type} {A : ρ → Type} {P : Session σ → Session σ → Prop}
    {ask ask' : (r : ρ) → Act σ Failure (A r)}
    (h : ∀ r, Abreast P (ask r).run (ask' r).run (Same fun _ => P)) (p : Reading ρ A α) :
    Abreast P (p.run ask) (p.run ask') (Same fun _ => P) := by
  induction p with
  | done a => exact Abreast.same fun _ _ hs => hs
  | ask r next ih =>
      rw [Reading.run_ask, Reading.run_ask]
      exact Abreast.same_bind (h r) ih

theorem Abreast.surfaced_same {P Q : Session σ → Session σ → Prop} {act act' : Act σ Failure α}
    (h : Abreast P act.run act'.run (Same fun _ => Q)) :
    Abreast P (SqlGateway.surfaced act).run (SqlGateway.surfaced act').run (Same fun _ => Q) :=
  fun s s' hs => ⟨congrArg (Except.mapError Error.ofFailure) (h s s' hs).1, (h s s' hs).2⟩

/-! ## Statements -/

/-- What relates two sessions in which a statement has the same left to be fetched, where the one
cursor is open on it in the first and the other in the second. -/
abbrev Mirror (σ : Type) :=
  StatementId → Option CursorId → Option CursorId → Session σ → Session σ → Prop

namespace Mirror

variable (M : Mirror σ)

def Opened (i : StatementId) :
    Except Failure (Option CursorId) → Except Failure (Option CursorId) →
      Session σ → Session σ → Prop
  | .ok o, .ok o', s, s' => M i o o' s s'
  | .error f, .error f', s, s' => f = f' ∧ M i none none s s'
  | _, _, _, _ => False

/-- Two searches have ended in the same place. -/
def Sought (i : StatementId) : Sought → SqlGateway.Sought → Session σ → Session σ → Prop
  | .row c switched, .row c' switched', s, s' => switched = switched' ∧ M i (some c) (some c') s s'
  | .exhausted, .exhausted, s, s' => M i none none s s'
  | .failed f held, .failed f' held', s, s' => f = f' ∧ M i held held' s s'
  | _, _, _, _ => False

/-- Two result cursors are the same but for the name of the set of rows that is open. -/
def Alongside (a b : ResultCursor τ) (s s' : Session σ) : Prop :=
  (b = a ∧ a.Spent) ∨
    ∃ i, a.On i ∧ b = { a with current := b.current } ∧ M i a.current b.current s s'

/-- Two moves have come to the same row, or to the end for the same reason. -/
def Moved : Except Error (Option CurrentRow) × ResultCursor τ →
    Except Error (Option CurrentRow) × ResultCursor τ → Session σ → Session σ → Prop
  | (.ok (some row), a), (.ok (some row'), b), s, s' =>
    row.row = row'.row ∧ ∃ i, a.On i ∧ a.current = some row.cursor ∧
      b = { a with current := some row'.cursor } ∧ M i (some row.cursor) (some row'.cursor) s s'
  | (r, a), (r', b), _, _ => r = r' ∧ b = a ∧ a.Spent

end Mirror

theorem Mirror.Alongside.eq {M : Mirror σ} {a b : ResultCursor τ} {s s' : Session σ}
    (h : M.Alongside a b s s') : b = { a with current := b.current } := by
  obtain ⟨rfl, -⟩ | ⟨i, -, hb, -⟩ := h
  · rfl
  · exact hb

/-- All that is done to fetch what is left comes to the same where it is the same. -/
structure Mirrored (d : Driver σ) (M : Mirror σ) : Prop where
  shape {i : StatementId} {o o' : Option CursorId} {s s' : Session σ} :
    M i o o' s s' → o.isSome = o'.isSome
  log (i : StatementId) (o o' : Option CursorId) : Unlogged (M i o o')
  next (i : StatementId) (c c' : CursorId) : Abreast (M i (some c) (some c'))
    (d.perform (.next c)).run (d.perform (.next c')).run (Same fun _ => M i (some c) (some c'))
  columns (i : StatementId) (c c' : CursorId) : Abreast (M i (some c) (some c'))
    (d.perform (.columns c)).run (d.perform (.columns c')).run
      (Same fun _ => M i (some c) (some c'))
  cell (i : StatementId) (c c' : CursorId) (r : CellRead) : Abreast (M i (some c) (some c'))
    (d.answerCell c r).run (d.answerCell c' r).run (Same fun _ => M i (some c) (some c'))
  closeCursor (i : StatementId) (c c' : CursorId) : Abreast (M i (some c) (some c'))
    (d.perform (.closeCursor c)).run (d.perform (.closeCursor c')).run (Same fun _ => M i none none)
  moreResults (i : StatementId) : Abreast (M i none none) (d.perform (.moreResults i)).run
    (d.perform (.moreResults i)).run (Same fun _ => M i none none)
  openCursor (i : StatementId) :
    Abreast (M i none none) (d.openCursor i).run (d.openCursor i).run (M.Opened i)
  outValue (i : StatementId) (r : OutRead) : Abreast (M i none none) (d.answerOut i r).run
    (d.answerOut i r).run (Same fun _ => M i none none)
  closeStatement (i : StatementId) : Abreast (M i none none) (d.perform (.closeStatement i)).run
    (d.perform (.closeStatement i)).run (Same fun _ => M i none none)

namespace Mirrored

variable {M : Mirror σ} (h : Mirrored d M)
include h

theorem some_of_some {i : StatementId} {c : CursorId} {o' : Option CursorId} {s s' : Session σ}
    (hs : M i (some c) o' s s') : ∃ c', o' = some c' :=
  Option.isSome_iff_exists.mp (h.shape hs).symm

theorem none_of_none {i : StatementId} {o' : Option CursorId} {s s' : Session σ}
    (hs : M i none o' s s') : o' = none :=
  Option.not_isSome_iff_eq_none.mp (by rw [← h.shape hs]; nofun)

/-! ## Looking for the next row -/

theorem opened {i : StatementId} {s s₁ s' : Session σ} {o : Option CursorId}
    (hs : M i none none s s')
    (ho : (d.openCursor i).run s = (.ok o, s₁)) :
    ∃ o' s₁', (d.openCursor i).run s' = (.ok o', s₁') ∧ M i o o' s₁ s₁' := by
  generalize ho' : (d.openCursor i).run s' = result
  obtain ⟨r, s₁'⟩ := result
  have hs := (h.openCursor i).of_run hs ho ho'
  cases r with
  | ok o' => exact ⟨o', s₁', rfl, hs⟩
  | error f => exact hs.elim

theorem seek (i : StatementId) (o o' : Option CursorId) (switched : Bool) :
    Abreast (M i o o') (d.seek (some i) o switched) (d.seek (some i) o' switched)
      (M.Sought i) := by
  intro s s' hs
  fun_induction d.seek (some i) o switched s generalizing o' s' with
  | case1 switched s c s₁ hn =>
      obtain ⟨c', rfl⟩ := h.some_of_some hs
      obtain ⟨s₁', hn', hs⟩ := (h.next i c c').of_same hs hn
      rw [Driver.seek_open, bind_of_run hn']
      exact ⟨rfl, hs⟩
  | case2 switched s c s₁ hn s₂ a hc ih =>
      obtain ⟨c', rfl⟩ := h.some_of_some hs
      obtain ⟨s₁', hn', hs⟩ := (h.next i c c').of_same hs hn
      obtain ⟨s₂', hc', hs⟩ := (h.closeCursor i c c').of_same hs hc
      rw [Driver.seek_open, bind_of_run hn']
      dsimp only
      rw [bind_of_run hc']
      exact ih none s₂' hs
  | case3 switched s c s₁ hn f s₂ hc =>
      obtain ⟨c', rfl⟩ := h.some_of_some hs
      obtain ⟨s₁', hn', hs⟩ := (h.next i c c').of_same hs hn
      obtain ⟨s₂', hc', hs⟩ := (h.closeCursor i c c').of_same hs hc
      rw [Driver.seek_open, bind_of_run hn']
      dsimp only
      rw [bind_of_run hc']
      exact ⟨rfl, hs⟩
  | case4 switched s c f s₁ hn =>
      obtain ⟨c', rfl⟩ := h.some_of_some hs
      obtain ⟨s₁', hn', hs⟩ := (h.next i c c').of_same hs hn
      rw [Driver.seek_open, bind_of_run hn']
      exact ⟨rfl, hs⟩
  | case5 switched s j hj s₁ hm c s₂ ho ih =>
      cases hj
      obtain rfl := h.none_of_none hs
      obtain ⟨s₁', hm', hs⟩ := (h.moreResults i).of_same hs hm
      obtain ⟨o', s₂', ho', hs⟩ := h.opened hs ho
      obtain ⟨c', rfl⟩ := h.some_of_some hs
      rw [congrFun (Driver.seek_between d i switched) s', bind_of_run hm']
      dsimp only
      rw [bind_of_run ho']
      exact ih (some c') s₂' hs
  | case6 switched s j hj s₁ hm s₂ ho ih =>
      cases hj
      obtain rfl := h.none_of_none hs
      obtain ⟨s₁', hm', hs⟩ := (h.moreResults i).of_same hs hm
      obtain ⟨o', s₂', ho', hs⟩ := h.opened hs ho
      obtain rfl := h.none_of_none hs
      rw [congrFun (Driver.seek_between d i switched) s', bind_of_run hm']
      dsimp only
      rw [bind_of_run ho']
      exact ih none s₂' hs
  | case7 switched s j hj s₁ hm f s₂ ho =>
      cases hj
      obtain rfl := h.none_of_none hs
      obtain ⟨s₁', hm', hs⟩ := (h.moreResults i).of_same hs hm
      generalize ho' : (d.openCursor i).run s₁' = result
      obtain ⟨r, s₂'⟩ := result
      have hs := (h.openCursor i).of_run hs ho ho'
      rw [congrFun (Driver.seek_between d i switched) s', bind_of_run hm']
      dsimp only
      rw [bind_of_run ho']
      cases r with
      | ok o' => exact hs.elim
      | error f' => exact hs
  | case8 switched s j hj s₁ hm =>
      cases hj
      obtain rfl := h.none_of_none hs
      obtain ⟨s₁', hm', hs⟩ := (h.moreResults i).of_same hs hm
      rw [congrFun (Driver.seek_between d i switched) s', bind_of_run hm']
      exact hs
  | case9 switched s j hj f s₁ hm =>
      cases hj
      obtain rfl := h.none_of_none hs
      obtain ⟨s₁', hm', hs⟩ := (h.moreResults i).of_same hs hm
      rw [congrFun (Driver.seek_between d i switched) s', bind_of_run hm']
      exact ⟨rfl, hs⟩
  | case10 switched s hj => cases hj

/-! ## Releasing -/

theorem closeCursorWarned (i : StatementId) (c c' : CursorId) (what : String) :
    Abreast (M i (some c) (some c')) (orWarn (d.perform (.closeCursor c)) what)
      (orWarn (d.perform (.closeCursor c')) what) (Same fun _ => M i none none) :=
  Abreast.orWarn (h.log i none none)
    (Abreast.weaken (h.closeCursor i c c') fun _ _ _ _ hs => hs.2) what

theorem closeStatementWarned (i : StatementId) (what : String) :
    Abreast (M i none none) (orWarn (d.perform (.closeStatement i)) what)
      (orWarn (d.perform (.closeStatement i)) what) (Same fun _ => M i none none) :=
  Abreast.orWarn (h.log i none none)
    (Abreast.weaken (h.closeStatement i) fun _ _ _ _ hs => hs.2) what

/-- What is done with two cursors on a statement is done with one and the same, but for the name. -/
theorem alongside {a b : ResultCursor τ} {act act' : Plain σ α}
    {Q : α → α → Session σ → Session σ → Prop}
    (hnone : b = a → a.Spent → ∀ s s', Q (act s).1 (act' s').1 (act s).2 (act' s').2)
    (hsome : ∀ i c c', a.On i → a.current = some c →
      b = { a with current := some c' } → Abreast (M i (some c) (some c')) act act' Q)
    (hbetween : ∀ i, a.On i → a.current = none → b = a →
      Abreast (M i none none) act act' Q) : Abreast (M.Alongside a b) act act' Q := by
  rintro s s' (⟨hb, hspent⟩ | ⟨i, hi, hb, hs⟩)
  · exact hnone hb hspent s s'
  · cases hc : a.current with
    | none =>
        rw [hc] at hs
        have hc' := h.none_of_none hs
        rw [hc'] at hb hs
        exact hbetween i hi hc (by rw [hb, ← hc]) s s' hs
    | some c =>
        rw [hc] at hs
        obtain ⟨c', hc'⟩ := h.some_of_some hs
        rw [hc'] at hb hs
        exact hsome i c c' hi hc hb s s' hs

theorem release (a b : ResultCursor τ) :
    Abreast (M.Alongside a b) (d.release a) (d.release b) (Same fun after _ _ =>
      after = a.spent) := by
  obtain ⟨statement, current, row, stale, slots, handler, closed⟩ := a
  refine h.alongside ?_ ?_ ?_
  · rintro rfl hspent s s'
    obtain rfl : statement = none := hspent.statement
    obtain rfl : current = none := hspent.current
    exact ⟨rfl, rfl⟩
  · rintro i c c' hi rfl rfl
    obtain rfl : statement = some i := hi.statement
    refine Abreast.same_bind (h.closeCursorWarned i c c' _) fun _ => ?_
    exact Abreast.same_bind (h.closeStatementWarned i _) fun _ => Abreast.same fun _ _ _ => rfl
  · rintro i hi rfl rfl
    obtain rfl : statement = some i := hi.statement
    exact Abreast.same_bind (h.closeStatementWarned i _) fun _ => Abreast.same fun _ _ _ => rfl

theorem close (a b : ResultCursor τ) :
    Concur (M.Alongside a b) (d.close a) (d.close b) (fun _ _ _ => True) fun _ _ _ => True := by
  have report {P : Session σ → Session σ → Prop} (first second : Except Error Unit) :
      Concur P (do MonadExcept.ofExcept first; MonadExcept.ofExcept second : Act σ Error Unit)
        (do MonadExcept.ofExcept first; MonadExcept.ofExcept second) (fun _ _ _ => True)
        fun _ _ _ => True := by
    cases first <;> cases second <;> exact fun _ _ _ => ⟨rfl, trivial⟩
  rw [Driver.close_eq, Driver.close_eq]
  obtain ⟨statement, current, row, stale, slots, handler, closed⟩ := a
  refine h.alongside ?_ ?_ ?_
  · rintro rfl hspent s s'
    obtain rfl : statement = none := hspent.statement
    obtain rfl : current = none := hspent.current
    exact ⟨rfl, trivial⟩
  · rintro i c c' hi rfl rfl
    obtain rfl : statement = some i := hi.statement
    refine Concur.bind (Concur.lift (Abreast.surfaced_same (h.closeCursor i c c'))) fun first => ?_
    exact Concur.bind (Concur.lift (Abreast.surfaced_same (h.closeStatement i))) (report first)
  · rintro i hi rfl rfl
    obtain rfl : statement = some i := hi.statement
    refine Concur.bind (Q := fun _ => M i none none) (Concur.pure fun _ _ hs => hs) fun first => ?_
    exact Concur.bind (Concur.lift (Abreast.surfaced_same (h.closeStatement i))) (report first)

/-! ## Rows -/

theorem readRow (i : StatementId) (c c' : CursorId) (reading : CellReading Error α) :
    Abreast (M i (some c) (some c')) (d.readRow c reading).run (d.readRow c' reading).run
      (Same fun _ => M i (some c) (some c')) :=
  Abreast.reading (h.cell i c c') reading.run

omit h in
theorem moved_of_spent {r : Except Error (Option CurrentRow)} {a : ResultCursor τ}
    (hr : ∀ row, r ≠ .ok (some row)) (ha : a.Spent) (s s' : Session σ) :
    M.Moved (r, a) (r, a) s s' := by
  rcases r with e | _ | row
  · exact ⟨rfl, rfl, ha⟩
  · exact ⟨rfl, rfl, ha⟩
  · exact absurd rfl (hr row)

theorem log_alongside (a b : ResultCursor τ) : Unlogged (M.Alongside a b) := by
  rintro s s' l l' (hs | ⟨i, hi, hb, hs⟩)
  · exact .inl hs
  · exact .inr ⟨i, hi, hb, h.log i _ _ s s' l l' hs⟩

theorem failCursor (a b : ResultCursor τ) (f : Failure) :
    Abreast (M.Alongside a b) (d.failCursor a f) (d.failCursor b f) M.Moved := by
  refine Abreast.same_bind ((h.log_alongside a b).debug _) fun _ => ?_
  refine Abreast.same_bind (h.release a b) fun after => Abreast.pure fun s s' hs => ?_
  exact moved_of_spent (fun _ he => by cases he) (hs ▸ a.spent_spent) s s'

theorem describeRow {a : ResultCursor τ} {i : StatementId} {c : CursorId} (c' : CursorId)
    (hi : a.On i) (hc : a.current = some c) :
    Abreast (M i (some c) (some c')) (d.describeRow a)
      (d.describeRow { a with current := some c' }) M.Moved := by
  obtain ⟨statement, current, row, stale, slots, handler, closed⟩ := a
  obtain rfl : current = some c := hc
  cases stale with
  | false =>
      obtain ⟨row, rfl⟩ := Option.isSome_iff_exists.mp (hi.described rfl)
      exact Abreast.pure fun s s' hs => ⟨rfl, i, hi, rfl, rfl, hs⟩
  | true =>
      rw [Driver.describeRow_stale rfl rfl, Driver.describeRow_stale rfl rfl]
      refine Abreast.same_bind (h.columns i c c') fun r => ?_
      cases r with
      | error f =>
          exact Abreast.strengthen (h.failCursor _ _ f) fun s s' hs => .inr ⟨i, hi, rfl, hs⟩
      | ok columns =>
          have hi := hi.describe columns
          cases row <;> exact Abreast.pure fun s s' hs => ⟨rfl, i, hi, rfl, rfl, hs⟩

theorem fireHandler {a : ResultCursor τ} {i : StatementId} (hi : a.On i)
    (hc : a.current = none) :
    Abreast (M i none none) (d.fireHandler a) (d.fireHandler a) (Same fun r s s' =>
      (r.2.On i ∧ r.2.current = none) ∧ M i none none s s') := by
  by_cases hh : ∃ mapper, a.handler = .armed mapper
  · obtain ⟨mapper, hh⟩ := hh
    rw [Driver.fireHandler_armed hi hh]
    refine Abreast.same_bind (Abreast.reading (h.outValue i) _) fun r => ?_
    cases r <;> exact Abreast.same fun s s' hs => ⟨⟨hi.handled _, hc⟩, hs⟩
  · rw [Driver.fireHandler_silent a (not_exists.mp hh)]
    exact Abreast.same fun s s' hs => ⟨⟨hi, hc⟩, hs⟩

theorem finish {a : ResultCursor τ} {i : StatementId} (hi : a.On i)
    (hc : a.current = none) :
    Abreast (M i none none) (d.finish a) (d.finish a) M.Moved := by
  refine Abreast.same_bind (h.fireHandler hi hc) fun r => ?_
  obtain ⟨fired, after⟩ := r
  refine Abreast.assuming fun hafter => ?_
  have released : Abreast (M i none none) (d.release after) (d.release after)
      (Same fun left _ _ => left = after.spent) :=
    Abreast.strengthen (h.release _ _) fun s s' hs =>
      .inr ⟨i, hafter.1, rfl, by rwa [hafter.2]⟩
  refine Abreast.same_bind released fun left => Abreast.pure fun s s' hs => ?_
  refine moved_of_spent ?_ (hs ▸ after.spent_spent) s s'
  cases fired <;> exact fun _ => nofun

theorem nextRow (a b : ResultCursor τ) :
    Abreast (M.Alongside a b) (d.nextRow a) (d.nextRow b) M.Moved := by
  rintro s s' (⟨rfl, hspent⟩ | ⟨i, hi, hb, hs⟩)
  · rw [Driver.nextRow_of_closed hspent.closed]
    exact moved_of_spent (fun _ he => by cases he) hspent s s'
  · generalize b.current = o' at hb hs
    subst hb
    refine (?_ : Abreast (M i a.current o') _ _ M.Moved) s s' hs
    rw [Driver.nextRow_on hi, Driver.nextRow_on (hi.held o')]
    have sought : Abreast (M i a.current o') (d.seek (some i) a.current a.stale)
        (d.seek (some i) o' a.stale) fun r r' s s' =>
          (∀ c stale, r = .row c stale → a.stale = true → stale = true) ∧ M.Sought i r r' s s' :=
      fun s s' hs => ⟨fun _ _ hr => Driver.stale_of_seek (Prod.ext hr rfl),
        h.seek i a.current o' a.stale s s' hs⟩
    refine Abreast.bind sought fun sought sought' => Abreast.assuming fun hstale => ?_
    cases sought with
    | row c switched =>
        cases sought' with
        | row c' switched' =>
            refine Abreast.assuming fun heq => ?_
            subst heq
            exact h.describeRow c' (hi.moved (hstale c switched rfl)) rfl
        | exhausted | failed => exact fun s s' hs => hs.elim
    | exhausted =>
        cases sought' with
        | exhausted => exact h.finish (hi.held none) rfl
        | row | failed => exact fun s s' hs => hs.elim
    | failed f held =>
        cases sought' with
        | failed f' held' =>
            refine Abreast.assuming fun heq => ?_
            subst heq
            exact Abreast.strengthen (h.failCursor _ _ f) fun s s' hs =>
              .inr ⟨i, hi.held held, rfl, hs⟩
        | row | exhausted => exact fun s s' hs => hs.elim

omit h in
theorem alongside_of_spent {a : ResultCursor τ} (ha : a.Spent) (s s' : Session σ) :
    M.Alongside a a s s' :=
  .inl ⟨rfl, ha⟩

omit h in
theorem moved_row {row : CurrentRow} {r' : Except Error (Option CurrentRow)} {a b : ResultCursor τ}
    {s s' : Session σ} (hm : M.Moved (.ok (some row), a) (r', b) s s') :
    ∃ row' i, r' = .ok (some row') ∧ row.row = row'.row ∧
      M i (some row.cursor) (some row'.cursor) s s' ∧
      ∀ t t', M i (some row.cursor) (some row'.cursor) t t' → M.Alongside a b t t' := by
  rcases r' with e | _ | row'
  · cases hm.1
  · cases hm.1
  · obtain ⟨hrow, i, hi, hc, rfl, hs⟩ := hm
    exact ⟨row', i, rfl, hrow, hs, fun _ _ ht => .inr ⟨i, hi, rfl, by rwa [hc]⟩⟩

omit h in
theorem alongside_of_moved {r r' : Except Error (Option CurrentRow) × ResultCursor τ}
    {s s' : Session σ} (hm : M.Moved r r' s s') : M.Alongside r.2 r'.2 s s' := by
  obtain ⟨r, a⟩ := r
  obtain ⟨r', b⟩ := r'
  rcases r with e | _ | row
  · obtain ⟨-, rfl, hspent⟩ := hm
    exact alongside_of_spent hspent s s'
  · obtain ⟨-, rfl, hspent⟩ := hm
    exact alongside_of_spent hspent s s'
  · obtain ⟨row', i, -, -, hs, halong⟩ := moved_row hm
    exact halong s s' hs

/-! ## Mapping -/

theorem mapRows (mapper : RowMapper α) (limit : Option Nat) (a b : ResultCursor τ) :
    Abreast (M.Alongside a b) (d.mapRows mapper limit a) (d.mapRows mapper limit b)
      fun r r' s s' => r.1 = r'.1 ∧ M.Alongside r.2 r'.2 s s' := by
  intro s s' hs
  fun_induction d.mapRows mapper limit a s generalizing b s' with
  | case1 a s =>
      rw [Driver.mapRows, if_pos rfl]
      exact ⟨rfl, hs⟩
  | case2 limit a s hl e a₁ s₁ hr =>
      generalize hr' : d.nextRow b s' = moved
      obtain ⟨⟨r', b₁⟩, s₁'⟩ := moved
      obtain ⟨rfl, rfl, hspent⟩ := (h.nextRow a b).of_run hs hr hr'
      rw [Driver.mapRows_step d mapper limit b hl, bind_of_run hr']
      exact ⟨rfl, alongside_of_spent hspent s₁ s₁'⟩
  | case3 limit a s hl a₁ s₁ hr =>
      generalize hr' : d.nextRow b s' = moved
      obtain ⟨⟨r', b₁⟩, s₁'⟩ := moved
      obtain ⟨rfl, rfl, hspent⟩ := (h.nextRow a b).of_run hs hr hr'
      rw [Driver.mapRows_step d mapper limit b hl, bind_of_run hr']
      exact ⟨rfl, alongside_of_spent hspent s₁ s₁'⟩
  | case4 limit a s hl row a₁ s₁ hr e s₂ hread a₂ s₃ hrel =>
      generalize hr' : d.nextRow b s' = moved
      obtain ⟨⟨r', b₁⟩, s₁'⟩ := moved
      obtain ⟨row', i, rfl, hrow, hs, halong⟩ := moved_row ((h.nextRow a b).of_run hs hr hr')
      obtain ⟨s₂', hread', hs⟩ := (h.readRow i row.cursor row'.cursor _).of_same hs hread
      obtain ⟨s₃', hrel', rfl⟩ := (h.release a₁ b₁).of_same (halong _ _ hs) hrel
      rw [Driver.mapRows_step d mapper limit b hl, bind_of_run hr']
      dsimp only
      rw [← hrow, bind_of_run hread']
      dsimp only
      rw [bind_of_run hrel']
      exact ⟨rfl, alongside_of_spent (ResultCursor.spent_spent _) s₃ s₃'⟩
  | case5 limit a s hl row a₁ s₁ hr v s₂ hread rest a₂ s₃ hrest ih =>
      generalize hr' : d.nextRow b s' = moved
      obtain ⟨⟨r', b₁⟩, s₁'⟩ := moved
      obtain ⟨row', i, rfl, hrow, hs, halong⟩ := moved_row ((h.nextRow a b).of_run hs hr hr')
      obtain ⟨s₂', hread', hs⟩ := (h.readRow i row.cursor row'.cursor _).of_same hs hread
      have hmore := ih b₁ s₂' (halong _ _ hs)
      rw [hrest] at hmore
      rw [Driver.mapRows_step d mapper limit b hl, bind_of_run hr']
      dsimp only
      rw [← hrow, bind_of_run hread']
      dsimp only
      generalize hrest' : d.mapRows mapper (limit.map (· - 1)) b₁ s₂' = result at hmore
      obtain ⟨⟨rest', b₂⟩, s₃'⟩ := result
      rw [bind_of_run hrest']
      exact ⟨congrArg (_ :: ·) hmore.1, hmore.2⟩

theorem rowMaps (a b : ResultCursor τ) :
    Abreast (M.Alongside a b) (d.rowMaps a) (d.rowMaps b)
      fun r r' s s' => r.1 = r'.1 ∧ M.Alongside r.2 r'.2 s s' :=
  Abreast.bind (h.mapRows Row.toMap none a b) fun _ _ => Abreast.pure fun _ _ hs =>
    ⟨congrArg Driver.collect hs.1, hs.2⟩

end Mirrored

end SqlGateway
