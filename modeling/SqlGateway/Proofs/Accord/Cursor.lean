import SqlGateway.Proofs.Accord.Execution
import SqlGateway.Proofs.Walk.Turn

/-!
# Cursors in accord

A cursor that is moved in two sessions comes to the same row in both, to its end in both, or to the
same error in both.
-/

namespace SqlGateway

variable {σ σ' τ α : Type} {d : Driver σ} {d' : Driver σ'} {v : Phases σ σ'}

/-! ## One step of a walk -/

theorem Driver.seek_open (d : Driver σ) (statement : Option StatementId) (c : CursorId)
    (switched : Bool) :
    d.seek statement (some c) switched = (do
      match ← (d.perform (.next c)).run with
      | .ok true => return .row c switched
      | .ok false =>
        match ← (d.perform (.closeCursor c)).run with
        | .ok _ => d.seek statement none switched
        | .error f => return .failed f none
      | .error f => return .failed f (some c) : Plain σ Sought) := by
  funext s
  rw [Driver.seek]
  split
  · rename_i hn
    rw [bind_of_run hn]
    rfl
  · rename_i hn
    rw [bind_of_run hn]
    split
    · rename_i hc
      dsimp only
      rw [bind_of_run hc]
    · rename_i hc
      dsimp only
      rw [bind_of_run hc]
      rfl
  · rename_i hn
    rw [bind_of_run hn]
    rfl

theorem Driver.seek_between (d : Driver σ) (i : StatementId) (switched : Bool) :
    d.seek (some i) none switched = (do
      match ← (d.perform (.moreResults i)).run with
      | .ok true =>
        match ← (d.openCursor i).run with
        | .ok (some c) => d.seek (some i) (some c) true
        | .ok none => d.seek (some i) none switched
        | .error f => return .failed f none
      | .ok false => return .exhausted
      | .error f => return .failed f none : Plain σ Sought) := by
  funext s
  rw [Driver.seek]
  split
  · rename_i hm
    rw [bind_of_run hm]
    split
    · rename_i ho
      dsimp only
      rw [bind_of_run ho]
    · rename_i ho
      dsimp only
      rw [bind_of_run ho]
    · rename_i ho
      dsimp only
      rw [bind_of_run ho]
      rfl
  · rename_i hm
    rw [bind_of_run hm]
    rfl
  · rename_i hm
    rw [bind_of_run hm]
    rfl

theorem Driver.mapRows_step (d : Driver σ) (mapper : RowMapper α) (limit : Option Nat)
    (cursor : ResultCursor τ) (hl : limit ≠ some 0) :
    d.mapRows mapper limit cursor = (do
      let (row, cursor) ← d.nextRow cursor
      match row with
      | .error e => return ([.error e], cursor)
      | .ok none => return ([], cursor)
      | .ok (some current) =>
        match ← (d.readRow current.cursor (mapper current.row)).run with
        | .error e => return ([.error e], ← d.release cursor)
        | .ok a =>
          let (rest, cursor) ← d.mapRows mapper (limit.map (· - 1)) cursor
          return (.ok a :: rest, cursor) : Plain σ (List (Except Error α) × ResultCursor τ)) := by
  funext s
  rw [Driver.mapRows, if_neg hl]
  split
  · rename_i hr
    rw [bind_of_run hr]
    rfl
  · rename_i hr
    rw [bind_of_run hr]
    rfl
  · rename_i hr
    rw [bind_of_run hr]
    split
    · rename_i hm
      dsimp only
      rw [bind_of_run hm]
      rfl
    · rename_i hm
      dsimp only
      rw [bind_of_run hm]
      rfl

/-! ## Closing -/

theorem Driver.close_forM (d : Driver σ) (cursor : ResultCursor τ) :
    d.close cursor = (do
      let first ← ExceptT.lift (ExceptT.run (forM cursor.current fun c =>
        surfaced (d.perform (.closeCursor c))))
      let second ← ExceptT.lift (ExceptT.run (forM cursor.statement fun i =>
        surfaced (d.perform (.closeStatement i))))
      let first ← MonadExcept.ofExcept first
      MonadExcept.ofExcept second
      return id first) := by
  have report (first second : Except Error Unit) :
      (do MonadExcept.ofExcept first; MonadExcept.ofExcept second : Act σ Error Unit) = (do
        let first ← MonadExcept.ofExcept first
        MonadExcept.ofExcept second
        return id first) := by
    cases first <;> cases second <;> rfl
  rw [Driver.close_eq]
  simp only [report]
  obtain ⟨statement, current⟩ := cursor
  cases current <;> cases statement <;> rfl

/-- Where a cursor was given up, which reports nothing. -/
def Phases.Left (v : Phases σ σ') (s : Session σ) (s' : Session σ') : Prop :=
  v.going s s' ∨ ∃ e, v.failing e s s'

/-- Where a move has ended without an error. -/
def Phases.Reached (v : Phases σ σ') : Option CurrentRow → Session σ → Session σ' → Prop
  | some _ => v.going
  | none => v.done

/-- The handler that a cursor has still to serve makes the same of output values in both
sessions. -/
def Phases.Tends (v : Phases σ σ') (d : Driver σ) (d' : Driver σ') (cursor : ResultCursor τ) :
    Prop :=
  ∀ mapper, cursor.handler = .armed mapper → v.Reads d d' mapper

/-- Where there are no further results, be it that there is no statement. -/
def Phases.Served (v : Phases σ σ') (statement : Option StatementId) :
    Session σ → Session σ' → Prop :=
  statement.elim v.going v.spent

/-- Two searches have ended in the same place. -/
def Phases.Sought (v : Phases σ σ') (statement : Option StatementId) :
    Sought → Sought → Session σ → Session σ' → Prop
  | .row c switched, .row c' switched', s, s' => (c = c' ∧ switched = switched') ∧ v.going s s'
  | .exhausted, .exhausted, s, s' => v.Served statement s s'
  | .failed f held, .failed f' held', s, s' =>
    (held = held' ∧ Error.ofFailure f = .ofFailure f') ∧ v.failing (.ofFailure f) s s'
  | _, _, _, _ => False

namespace Accord

variable (h : Accord d d' v)
include h

omit h in
/-- A cursor is released in any case, so what holds has to be kept by closings that fail as well. -/
theorem released {P : Session σ → Session σ' → Prop} (hlog : Unlogged P)
    (hclose : ∀ c : Call, c.isOption = false → c.isTransactional = false →
      Abreast P (d.perform c).run (d'.perform c).run fun _ _ => P) (cursor : ResultCursor τ) :
    Abreast P (d.release cursor) (d'.release cursor)
      (Same fun after s s' => after = cursor.spent ∧ P s s') := by
  obtain ⟨statement, current, row, stale, slots, handler, closed⟩ := cursor
  have owner (current : Option CursorId) : Abreast P
      (d.release ⟨statement, none, row, stale, slots, handler, closed⟩)
      (d'.release ⟨statement, none, row, stale, slots, handler, closed⟩)
      (Same fun after s s' =>
        after = ResultCursor.spent ⟨statement, current, row, stale, slots, handler, closed⟩ ∧
        P s s') := by
    cases statement with
    | none => exact Abreast.same fun _ _ hs => ⟨rfl, hs⟩
    | some i =>
        refine Abreast.same_bind (Abreast.orWarn hlog (hclose (.closeStatement i) rfl rfl) _)
          fun _ => ?_
        exact Abreast.same fun _ _ hs => ⟨rfl, hs⟩
  cases current with
  | none => exact owner none
  | some c =>
      exact Abreast.same_bind (Abreast.orWarn hlog (hclose (.closeCursor c) rfl rfl) _) fun _ =>
        owner (some c)

theorem release (cursor : ResultCursor τ) (e : Error) :
    Abreast (v.failing e) (d.release cursor) (d'.release cursor)
      (Same fun after s s' => after = cursor.spent ∧ v.failing e s s') :=
  released (h.log_failing e) (fun c ho ht => h.late c e ho ht) cursor

/-- After the last result only the statement is left to be closed. -/
theorem releaseSpent {cursor : ResultCursor τ} (hc : cursor.current = none) :
    Abreast (v.Served cursor.statement) (d.release cursor) (d'.release cursor)
      (Same fun after s s' => after = cursor.spent ∧ v.done s s') := by
  obtain ⟨statement, current, row, stale, slots, handler, closed⟩ := cursor
  obtain rfl : current = none := hc
  cases statement with
  | none => exact Abreast.same fun s s' hs => ⟨rfl, h.done_of_going s s' hs⟩
  | some i =>
      refine Abreast.same_bind (Abreast.orWarn h.log_done (h.closeSpent i) _) fun _ => ?_
      exact Abreast.same fun _ _ hs => ⟨rfl, hs⟩

theorem close (cursor : ResultCursor τ) :
    Concur v.going (d.close cursor) (d'.close cursor) (fun _ => v.going) v.failing := by
  rw [Driver.close_forM, Driver.close_forM]
  refine Concur.both (f := id) (Concur.forM (fun c => ?_) _) (Concur.forM (fun i => ?_) _)
    fun e => ?_
  · exact (h.call (.closeCursor c) rfl rfl).surfaced
  · exact (h.call (.closeStatement i) rfl rfl).surfaced
  · cases cursor.statement with
    | none => exact Abreast.pure fun _ _ hs => hs
    | some i => exact Abreast.surfaced (h.late (.closeStatement i) e rfl rfl)

theorem drop (cursor : ResultCursor τ) :
    Abreast v.going (d.drop cursor) (d'.drop cursor) (Same fun _ => v.Left) := by
  have log : Unlogged v.Left := fun s s' l l' hs =>
    hs.imp (h.log_going s s' l l') fun ⟨e, hs⟩ => ⟨e, h.log_failing e s s' l l' hs⟩
  have closed (c : Call) (ho : c.isOption = false) (ht : c.isTransactional = false) :
      Abreast v.Left (d.perform c).run (d'.perform c).run fun _ _ => v.Left := by
    rintro s s' (hs | ⟨e, hs⟩)
    · obtain ⟨-, hs⟩ := h.call c ho ht s s' hs
      revert hs
      cases ((d.perform c).run s).1 with
      | ok a => exact .inl
      | error f => exact fun hs => .inr ⟨_, hs⟩
    · exact .inr ⟨e, h.late c e ho ht s s' hs⟩
  unfold Driver.drop
  split
  · exact Abreast.same fun _ _ hs => .inl hs
  · exact fun s s' hs => ⟨rfl, (released log closed cursor s s' (.inl hs)).2.2⟩

/-- After an error nothing that is done to give the cursor up changes what is reported. -/
theorem dropLate (cursor : ResultCursor τ) (e : Error) :
    Abreast (v.failing e) (d.drop cursor) (d'.drop cursor) (Same fun _ => v.failing e) := by
  unfold Driver.drop
  split
  · exact Abreast.same fun _ _ hs => hs
  · exact fun s s' hs => ⟨rfl, (h.release cursor e s s' hs).2.2⟩

/-! ## Rows -/

theorem seek (statement : Option StatementId) (current : Option CursorId) (switched : Bool) :
    Abreast v.going (d.seek statement current switched) (d'.seek statement current switched)
      (v.Sought statement) := by
  intro s s' hs
  have next (c : CursorId) := h.call (.next c) rfl rfl
  have closed (c : CursorId) := h.call (.closeCursor c) rfl rfl
  have more (i : StatementId) := h.exhausted i
  have opened (i : StatementId) := h.openCursor i
  fun_induction d.seek statement current switched s generalizing s' with
  | case1 switched s c s₁ hn =>
      obtain ⟨s₁', hn', hs⟩ := (next c).of_ok hs hn
      rw [Driver.seek_open d', bind_of_run hn']
      exact ⟨⟨rfl, rfl⟩, hs⟩
  | case2 switched s c s₁ hn s₂ a hc ih =>
      obtain ⟨s₁', hn', hs⟩ := (next c).of_ok hs hn
      obtain ⟨s₂', hc', hs⟩ := (closed c).of_ok hs hc
      rw [Driver.seek_open d', bind_of_run hn']
      dsimp only
      rw [bind_of_run hc']
      exact ih s₂' hs
  | case3 switched s c s₁ hn f s₂ hc =>
      obtain ⟨s₁', hn', hs⟩ := (next c).of_ok hs hn
      obtain ⟨f', s₂', hc', hf, hs⟩ := (closed c).of_error hs hc
      rw [Driver.seek_open d', bind_of_run hn']
      dsimp only
      rw [bind_of_run hc']
      exact ⟨⟨rfl, hf⟩, hs⟩
  | case4 switched s c f s₁ hn =>
      obtain ⟨f', s₁', hn', hf, hs⟩ := (next c).of_error hs hn
      rw [Driver.seek_open d', bind_of_run hn']
      exact ⟨⟨rfl, hf⟩, hs⟩
  | case5 switched s i hi s₁ hm c s₂ ho ih =>
      obtain ⟨s₁', hm', hs⟩ := (more i).of_ok hs hm
      obtain ⟨s₂', ho', hs⟩ := (opened i).of_ok hs ho
      rw [hi] at ih ⊢
      rw [Driver.seek_between d', bind_of_run hm']
      dsimp only
      rw [bind_of_run ho']
      exact ih s₂' hs
  | case6 switched s i hi s₁ hm s₂ ho ih =>
      obtain ⟨s₁', hm', hs⟩ := (more i).of_ok hs hm
      obtain ⟨s₂', ho', hs⟩ := (opened i).of_ok hs ho
      rw [hi] at ih ⊢
      rw [Driver.seek_between d', bind_of_run hm']
      dsimp only
      rw [bind_of_run ho']
      exact ih s₂' hs
  | case7 switched s i hi s₁ hm f s₂ ho =>
      obtain ⟨s₁', hm', hs⟩ := (more i).of_ok hs hm
      obtain ⟨f', s₂', ho', hf, hs⟩ := (opened i).of_error hs ho
      rw [hi, Driver.seek_between d', bind_of_run hm']
      dsimp only
      rw [bind_of_run ho']
      exact ⟨⟨rfl, hf⟩, hs⟩
  | case8 switched s i hi s₁ hm =>
      obtain ⟨s₁', hm', hs⟩ := (more i).of_ok hs hm
      rw [hi, Driver.seek_between d', bind_of_run hm']
      exact hs
  | case9 switched s i hi f s₁ hm =>
      obtain ⟨f', s₁', hm', hf, hs⟩ := (more i).of_error hs hm
      rw [hi, Driver.seek_between d', bind_of_run hm']
      exact ⟨⟨rfl, hf⟩, hs⟩
  | case10 switched s hi =>
      rw [hi, Driver.seek]
      exact hs

theorem failCursor {cursor : ResultCursor τ} (ht : v.Tends d d' cursor) {f f' : Failure}
    (hf : Error.ofFailure f = .ofFailure f') :
    Abreast (v.failing (.ofFailure f)) (d.failCursor cursor f) (d'.failCursor cursor f')
      (Same fun r s s' => v.Tends d d' r.2 ∧ Ends v.Reached v.failing r.1 s s') := by
  unfold Driver.failCursor
  rw [← hf]
  refine Abreast.same_bind ((h.log_failing _).debug _) fun _ => ?_
  exact Abreast.same_bind (h.release cursor _) fun after => Abreast.same fun _ _ hs =>
    ⟨hs.1 ▸ ht, hs.2⟩

omit h in
theorem fireHandler {cursor : ResultCursor τ} (ht : v.Tends d d' cursor)
    (hc : cursor.current = none) :
    Abreast (v.Served cursor.statement) (d.fireHandler cursor) (d'.fireHandler cursor)
      (Same fun r s s' =>
        (v.Tends d d' r.2 ∧ r.2.statement = cursor.statement ∧ r.2.current = none) ∧
        Ends (fun _ => v.Served cursor.statement) v.failing r.1 s s') := by
  obtain ⟨statement, current, row, stale, slots, handler, closed⟩ := cursor
  obtain rfl : current = none := hc
  cases handler with
  | armed mapper =>
      cases statement with
      | none => exact Abreast.same fun _ _ hs => ⟨⟨nofun, rfl, rfl⟩, hs⟩
      | some i =>
          refine Concur.run_bind (ht mapper rfl i slots).2 (fun a => ?_) fun e e' he => ?_
          · exact Abreast.same fun _ _ hs => ⟨⟨nofun, rfl, rfl⟩, hs⟩
          · obtain rfl : e = e' := he
            exact Abreast.same fun _ _ hs => ⟨⟨nofun, rfl, rfl⟩, hs⟩
  | unarmed | fired => exact Abreast.same fun _ _ hs => ⟨⟨ht, rfl, rfl⟩, hs⟩

theorem finish {cursor : ResultCursor τ} (ht : v.Tends d d' cursor)
    (hc : cursor.current = none) :
    Abreast (v.Served cursor.statement) (d.finish cursor) (d'.finish cursor)
      (Same fun r s s' => v.Tends d d' r.2 ∧ Ends v.Reached v.failing r.1 s s') := by
  refine Abreast.same_bind (fireHandler ht hc) fun r => ?_
  obtain ⟨fired, cursor⟩ := r
  refine Abreast.assuming fun hcursor => ?_
  obtain ⟨ht, hi, hc⟩ := hcursor
  rw [← hi]
  cases fired with
  | ok a =>
      exact Abreast.same_bind (h.releaseSpent hc) fun after => Abreast.same fun _ _ hs =>
        ⟨hs.1 ▸ ht, hs.2⟩
  | error e =>
      exact Abreast.same_bind (h.release cursor e) fun after => Abreast.same fun _ _ hs =>
        ⟨hs.1 ▸ ht, hs.2⟩

/-- What a cursor shows is a row that was reached, or its end. -/
theorem reached_currentRow (cursor : ResultCursor τ) {s : Session σ} {s' : Session σ'}
    (hs : v.going s s') : v.Reached cursor.currentRow? s s' := by
  cases cursor.currentRow? with
  | none => exact h.done_of_going s s' hs
  | some row => exact hs

theorem describeRow {cursor : ResultCursor τ} (ht : v.Tends d d' cursor) :
    Abreast v.going (d.describeRow cursor) (d'.describeRow cursor)
      (Same fun r s s' => v.Tends d d' r.2 ∧ Ends v.Reached v.failing r.1 s s') := by
  by_cases hasks : cursor.stale = true → cursor.current = none
  · rw [Driver.describeRow_known hasks, Driver.describeRow_known hasks]
    exact Abreast.same fun _ _ hs => ⟨ht, h.reached_currentRow cursor hs⟩
  · obtain ⟨hs, hc⟩ := Classical.not_imp.mp hasks
    obtain ⟨c, hc⟩ := Option.ne_none_iff_exists'.mp hc
    rw [Driver.describeRow_stale hs hc, Driver.describeRow_stale hs hc]
    refine Concur.run_bind (h.call (.columns c) rfl rfl) (fun columns => ?_) fun f f' hf => ?_
    · exact Abreast.same fun _ _ hs => ⟨ht, h.reached_currentRow _ hs⟩
    · exact h.failCursor ht hf

theorem nextRow {cursor : ResultCursor τ} (ht : v.Tends d d' cursor) :
    Abreast v.going (d.nextRow cursor) (d'.nextRow cursor)
      (Same fun r s s' => v.Tends d d' r.2 ∧ Ends v.Reached v.failing r.1 s s') := by
  unfold Driver.nextRow
  split
  · exact Abreast.same fun s s' hs => ⟨ht, h.done_of_going s s' hs⟩
  · refine Abreast.bind (h.seek cursor.statement cursor.current cursor.stale)
      fun sought sought' => ?_
    cases sought <;> cases sought' <;> try exact fun _ _ hs => hs.elim
    case row c stale c' stale' =>
      refine Abreast.assuming fun heq => ?_
      obtain ⟨rfl, rfl⟩ := heq
      have ht : v.Tends d d' { cursor with current := some c, stale } := ht
      exact h.describeRow ht
    case exhausted =>
      have ht : v.Tends d d' { cursor with current := none } := ht
      exact h.finish ht rfl
    case failed f held f' held' =>
      refine Abreast.assuming fun heq => ?_
      obtain ⟨rfl, hf⟩ := heq
      have ht : v.Tends d d' { cursor with current := held } := ht
      exact h.failCursor ht hf

/-! ## Mapping -/

theorem mapRows {mapper : RowMapper α} (hmapper : v.Maps d d' mapper) (limit : Option Nat)
    {cursor : ResultCursor τ} (ht : v.Tends d d' cursor) :
    Abreast v.going (d.mapRows mapper limit cursor) (d'.mapRows mapper limit cursor)
      (Same fun r => Ends (fun _ => v.done) v.failing (Driver.collect r.1)) := by
  intro s s' hs
  fun_induction d.mapRows mapper limit cursor s generalizing s' with
  | case1 cursor s =>
      rw [Driver.mapRows, if_pos rfl]
      exact ⟨rfl, h.done_of_going s s' hs⟩
  | case2 limit cursor s hl e cursor' s₁ hr =>
      obtain ⟨s₁', hr', -, hs⟩ := (h.nextRow ht).of_same hs hr
      rw [Driver.mapRows_step d' mapper limit cursor hl, bind_of_run hr']
      exact ⟨rfl, hs⟩
  | case3 limit cursor s hl cursor' s₁ hr =>
      obtain ⟨s₁', hr', -, hs⟩ := (h.nextRow ht).of_same hs hr
      rw [Driver.mapRows_step d' mapper limit cursor hl, bind_of_run hr']
      exact ⟨rfl, hs⟩
  | case4 limit cursor s hl row cursor' s₁ hr e s₂ hread cursor'' s₃ hrel =>
      obtain ⟨s₁', hr', -, hs⟩ := (h.nextRow ht).of_same hs hr
      obtain ⟨e', s₂', hread', he, hs⟩ := (hmapper row.cursor row.row).of_error hs hread
      obtain rfl : e = e' := he
      obtain ⟨s₃', hrel', -, hs⟩ := (h.release cursor' e).of_same hs hrel
      rw [Driver.mapRows_step d' mapper limit cursor hl, bind_of_run hr']
      dsimp only
      rw [bind_of_run hread']
      dsimp only
      rw [bind_of_run hrel']
      exact ⟨rfl, hs⟩
  | case5 limit cursor s hl row cursor' s₁ hr a s₂ hread rest after s₃ hrest ih =>
      obtain ⟨s₁', hr', ht, hs⟩ := (h.nextRow ht).of_same hs hr
      obtain ⟨s₂', hread', hs⟩ := (hmapper row.cursor row.row).of_ok hs hread
      have hmore := ih ht s₂' hs
      rw [hrest] at hmore
      rw [Driver.mapRows_step d' mapper limit cursor hl, bind_of_run hr']
      dsimp only
      rw [bind_of_run hread']
      dsimp only
      generalize hrest' : d'.mapRows mapper (limit.map (· - 1)) cursor' s₂' = result at hmore
      obtain ⟨⟨rest', after'⟩, s₃'⟩ := result
      obtain ⟨heq, hs⟩ := hmore
      cases heq
      rw [bind_of_run hrest']
      refine ⟨rfl, ?_⟩
      change Ends _ _ ((Driver.collect rest).map (a :: ·)) s₃ s₃'
      revert hs
      dsimp only
      cases Driver.collect rest <;> exact id

theorem rowMaps (hmaps : v.Maps d d' Row.toMap) {cursor : ResultCursor τ}
    (ht : v.Tends d d' cursor) :
    Abreast v.going (d.rowMaps cursor) (d'.rowMaps cursor)
      (Same fun r => Ends (fun _ => v.done) v.failing r.1) :=
  Abreast.same_bind (h.mapRows hmaps none ht) fun _ => Abreast.same fun _ _ hs => hs

end Accord

end SqlGateway
