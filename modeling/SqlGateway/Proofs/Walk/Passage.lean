import SqlGateway.Proofs.Act.Run
import SqlGateway.Proofs.Trace.Execution
import SqlGateway.Proofs.Walk.Turn

/-!
# What passes during a walk

Each turn of a walk on a watched driver leaves a trace of a fixed form: the next row is looked for,
through as many sets of rows as it takes, and is described and read; or the walk comes to its end
and what the cursor owns is closed.
-/

namespace SqlGateway

variable {σ τ α : Type} {d : Driver σ}

/-- Between two sessions this has passed. -/
def Passed (s s' : Session (Traced σ)) (t : List Exchange) : Prop :=
  s'.trace = s.trace ++ t

namespace Passed

variable {s s' s'' : Session (Traced σ)} {t u : List Exchange}

theorem refl (s : Session (Traced σ)) : Passed s s [] :=
  (List.append_nil _).symm

theorem trans (h : Passed s s' t) (h' : Passed s' s'' u) : Passed s s'' (t ++ u) := by
  unfold Passed at h h' ⊢
  rw [h', h, List.append_assoc]

theorem call {c : Call} {r : Except Failure c.Answer}
    (h : (d.traced.perform c).run s = (r, s')) : Passed s s' [.call c r] :=
  traced_run h

end Passed

/-! ## Looking for a row -/

/-- What passes while the next row is looked for, and where that leads. -/
inductive Seeks (i : StatementId) : Option CursorId → Bool → List Exchange → Sought → Prop
  | found (c : CursorId) (switched : Bool) :
      Seeks i (some c) switched [.call (.next c) (.ok true)] (.row c switched)
  | unmoved (c : CursorId) (switched : Bool) (f : Failure) :
      Seeks i (some c) switched [.call (.next c) (.error f)] (.failed f (some c))
  | unclosed (c : CursorId) (switched : Bool) (f : Failure) :
      Seeks i (some c) switched
        [.call (.next c) (.ok false), .call (.closeCursor c) (.error f)] (.failed f none)
  | closed (c : CursorId) {switched : Bool} {t : List Exchange} {r : Sought}
      (h : Seeks i none switched t r) :
      Seeks i (some c) switched
        (.call (.next c) (.ok false) :: .call (.closeCursor c) (.ok ()) :: t) r
  | last (switched : Bool) : Seeks i none switched [.call (.moreResults i) (.ok false)] .exhausted
  | unanswered (switched : Bool) (f : Failure) :
      Seeks i none switched [.call (.moreResults i) (.error f)] (.failed f none)
  | unopened (c : CursorId) (switched : Bool) (f : Failure) :
      Seeks i none switched
        [.call (.moreResults i) (.ok true), .call (.resultCursor i c) (.error f)] (.failed f none)
  | passed (c : CursorId) {switched : Bool} {t : List Exchange} {r : Sought}
      (h : Seeks i none switched t r) :
      Seeks i none switched
        (.call (.moreResults i) (.ok true) :: .call (.resultCursor i c) (.ok false) :: t) r
  | opened (c : CursorId) {switched : Bool} {t : List Exchange} {r : Sought}
      (h : Seeks i (some c) true t r) :
      Seeks i none switched
        (.call (.moreResults i) (.ok true) :: .call (.resultCursor i c) (.ok true) :: t) r

theorem Seeks.mem_of_exhausted {i : StatementId} {c : Option CursorId} {switched : Bool}
    {t : List Exchange} (h : Seeks i c switched t .exhausted) :
    .call (.moreResults i) (.ok false) ∈ t := by
  generalize hr : Sought.exhausted = r at h
  induction h with
  | last => exact List.mem_cons_self
  | closed c h ih | passed c h ih | opened c h ih =>
      exact List.mem_cons_of_mem _ (List.mem_cons_of_mem _ (ih hr))
  | found | unmoved | unclosed | unanswered | unopened => cases hr

/-- What passes when a set of rows is opened, and what that gives. -/
inductive Opens (i : StatementId) : List Exchange → Except Failure (Option CursorId) → Prop
  | opened (c : CursorId) : Opens i [.call (.resultCursor i c) (.ok true)] (.ok (some c))
  | passed (c : CursorId) : Opens i [.call (.resultCursor i c) (.ok false)] (.ok none)
  | failed (c : CursorId) (f : Failure) :
      Opens i [.call (.resultCursor i c) (.error f)] (.error f)

theorem openCursor_opens {i : StatementId} {s s' : Session (Traced σ)}
    {r : Except Failure (Option CursorId)} (h : (d.traced.openCursor i).run s = (r, s')) :
    ∃ t, Passed s s' t ∧ Opens i t r := by
  obtain ⟨answer, s₁, ho, ⟨f, rfl, rfl, rfl⟩ | ⟨rfl, rfl, rfl⟩ | ⟨rfl, rfl, rfl⟩⟩ :=
    openCursor_run h
  · exact ⟨_, .call ho, .failed _ f⟩
  · exact ⟨_, .call ho, .passed _⟩
  · have ht := Passed.call ho
    exact ⟨_, ht, .opened _⟩

theorem seek_passed (i : StatementId) (current : Option CursorId) (switched : Bool)
    (s : Session (Traced σ)) :
    ∃ t, Passed s (d.traced.seek (some i) current switched s).2 t ∧
      Seeks i current switched t (d.traced.seek (some i) current switched s).1 := by
  fun_induction d.traced.seek (some i) current switched s with
  | case1 switched s c s' hn => exact ⟨_, .call hn, .found c switched⟩
  | case2 switched s c s' hn s'' a hc ih =>
      obtain ⟨t, ht, h⟩ := ih
      exact ⟨_, (Passed.call hn).trans ((Passed.call hc).trans ht), .closed c h⟩
  | case3 switched s c s' hn f s'' hc =>
      exact ⟨_, (Passed.call hn).trans (.call hc), .unclosed c switched f⟩
  | case4 switched s c f s' hn => exact ⟨_, .call hn, .unmoved c switched f⟩
  | case5 switched s j hj s' hm c s'' ho ih =>
      cases hj
      obtain ⟨t, ht, h⟩ := ih
      obtain ⟨u, hu, hopens⟩ := openCursor_opens ho
      cases hopens
      exact ⟨_, (Passed.call hm).trans (hu.trans ht), .opened c h⟩
  | case6 switched s j hj s' hm s'' ho ih =>
      cases hj
      obtain ⟨t, ht, h⟩ := ih
      obtain ⟨u, hu, hopens⟩ := openCursor_opens ho
      cases hopens with
      | passed c => exact ⟨_, (Passed.call hm).trans (hu.trans ht), .passed c h⟩
  | case7 switched s j hj s' hm f s'' ho =>
      cases hj
      obtain ⟨u, hu, hopens⟩ := openCursor_opens ho
      cases hopens with
      | failed c => exact ⟨_, (Passed.call hm).trans hu, .unopened c switched f⟩
  | case8 switched s j hj s' hm =>
      cases hj
      exact ⟨_, .call hm, .last switched⟩
  | case9 switched s j hj f s' hm =>
      cases hj
      exact ⟨_, .call hm, .unanswered switched f⟩
  | case10 switched s hj => cases hj

/-! ## Rows -/

/-- An exchange that describes a row or reads one of its cells. -/
def Exchange.OfRow : Exchange → Prop
  | .call (.columns _) (.ok _) | .call (.getObject ..) _ | .call (.getBinaryStream ..) _
  | .call (.getCharacterStream ..) _ => True
  | _ => False

theorem Replays.ofRow {k : CursorId} {p : Reading CellRead CellRead.Answer α} {t : List Exchange}
    {a : α} (h : Replays k p t a) : ∀ x ∈ t, x.OfRow := by
  induction h with
  | done a => exact fun _ hx => absurd hx List.not_mem_nil
  | object h ih | binaryStream h ih | characterStream h ih =>
      exact List.forall_mem_cons.mpr ⟨trivial, ih⟩

theorem readRow_ofRow {c : CursorId} {reading : CellReading Error α} {s s' : Session (Traced σ)}
    {r : Except Error α} (h : (d.traced.readRow c reading).run s = (r, s')) :
    ∃ u, Passed s s' u ∧ ∀ x ∈ u, x.OfRow := by
  obtain ⟨u, hu, hreplays⟩ := readRow_replays (d := d) c reading s
  rw [h] at hu
  exact ⟨u, hu, hreplays.ofRow⟩

/-! ## Releasing -/

theorem orWarn_passed {act : Act (Traced σ) Failure Unit} {t : List Exchange} (what : String)
    {s : Session (Traced σ)} (h : Passed s (act.run s).2 t) :
    Passed s (orWarn act what s).2 t := by
  unfold orWarn
  generalize ha : act.run s = result at h
  obtain ⟨answer, s'⟩ := result
  rw [bind_of_run ha]
  cases answer <;> exact h

/-- What passes when a statement and its cursor are released. -/
inductive Releases (i : StatementId) : Option CursorId → List Exchange → Prop
  | both (c : CursorId) (a b : Except Failure Unit) :
      Releases i (some c) [.call (.closeCursor c) a, .call (.closeStatement i) b]
  | statement (b : Except Failure Unit) : Releases i none [.call (.closeStatement i) b]

theorem release_passed (cursor : ResultCursor τ) {i : StatementId} (hi : cursor.statement = some i)
    (s : Session (Traced σ)) :
    ∃ t s', d.traced.release cursor s = (cursor.spent, s') ∧ Passed s s' t ∧
      Releases i cursor.current t := by
  obtain ⟨statement, current, row, stale, slots, handler⟩ := cursor
  obtain rfl : statement = some i := hi
  have closed (c : Call) (s : Session (Traced σ)) :
      Passed s ((d.traced.perform c).run s).2 [.call c ((d.traced.perform c).run s).1] :=
    Passed.call rfl
  cases current with
  | none =>
      exact ⟨_, _, rfl, orWarn_passed _ (closed (.closeStatement i) s), .statement _⟩
  | some c =>
      have hc := orWarn_passed "Failed to close result cursor" (closed (.closeCursor c) s)
      exact ⟨_, _, rfl, hc.trans (orWarn_passed _ (closed (.closeStatement i) _)), .both c _ _⟩

/-! ## Output values -/

/-- A reading of output values, and what it comes to with the answers that it was given. -/
inductive OutReplays (i : StatementId) :
    Reading OutRead OutRead.Answer α → List Exchange → α → Prop
  | done (a : α) : OutReplays i (.done a) [] a
  | ask {r : OutRead} {next : Except Failure Value → Reading OutRead OutRead.Answer α}
      {answer : Except Failure Value} {t : List Exchange} {a : α}
      (h : OutReplays i (next answer) t a) :
      OutReplays i (.ask r next) (.call (.outValue i r.position r.type) answer :: t) a

theorem readOut_replays {i : StatementId} {reading : OutReading Error α}
    {s s' : Session (Traced σ)} {r : Except Error α}
    (h : (d.traced.readOut i reading).run s = (r, s')) :
    ∃ t, Passed s s' t ∧ OutReplays i reading.run t r := by
  have replay (p : Reading OutRead OutRead.Answer (Except Error α)) (s : Session (Traced σ)) :
      ∃ t, Passed s (p.run (d.traced.answerOut i) s).2 t ∧
        OutReplays i p t (p.run (d.traced.answerOut i) s).1 := by
    induction p generalizing s with
    | done a => exact ⟨[], .refl s, .done a⟩
    | ask r next ih =>
        obtain ⟨t, ht, h⟩ := ih _ (d.traced.perform (.outValue i r.position r.type) s).2
        exact ⟨_, (Passed.call (d := d) rfl).trans ht, .ask h⟩
  obtain ⟨t, ht, hr⟩ := replay reading.run s
  change Reading.run (d.traced.answerOut i) reading.run s = _ at h
  rw [h] at ht hr
  exact ⟨t, ht, hr⟩

/-! ## Moves -/

/-- What passes when an open cursor is asked for its next row, what that gives, and the cursor that
it leaves. -/
inductive Moves (i : StatementId) (cursor : ResultCursor τ) :
    List Exchange → Except Error (Option CurrentRow) → ResultCursor τ → Prop
  | row {t u : List Exchange} {c : CursorId} {switched : Bool} {row : Row}
      (hs : Seeks i cursor.current cursor.stale t (.row c switched)) (hu : ∀ x ∈ u, x.OfRow) :
      Moves i cursor (t ++ u) (.ok (some ⟨c, row⟩))
        { cursor with current := some c, row := some row, stale := false }
  | undescribed {t u : List Exchange} {c : CursorId} {switched : Bool} {f : Failure}
      (hs : Seeks i cursor.current cursor.stale t (.row c switched))
      (hu : Releases i (some c) u) :
      Moves i cursor (t ++ .call (.columns c) (.error f) :: u) (.error (.ofFailure f))
        { cursor.spent with stale := switched }
  | failed {t u : List Exchange} {f : Failure} {held : Option CursorId}
      (hs : Seeks i cursor.current cursor.stale t (.failed f held)) (hu : Releases i held u) :
      Moves i cursor (t ++ u) (.error (.ofFailure f)) cursor.spent
  | finished {t : List Exchange} {b : Except Failure Unit}
      (hs : Seeks i cursor.current cursor.stale t .exhausted)
      (hh : ∀ mapper, cursor.handler ≠ .armed mapper) :
      Moves i cursor (t ++ [.call (.closeStatement i) b]) (.ok none) cursor.spent
  | served {t u : List Exchange} {mapper : OutMapper τ} {r : Except Error τ}
      {b : Except Failure Unit} (hs : Seeks i cursor.current cursor.stale t .exhausted)
      (hh : cursor.handler = .armed mapper) (hu : OutReplays i (mapper cursor.slots).run u r) :
      Moves i cursor (t ++ (u ++ [.call (.closeStatement i) b])) (r.map fun _ => none)
        { cursor.spent with handler := .fired r.toOption }

theorem failCursor_passed (cursor : ResultCursor τ) {i : StatementId}
    (hi : cursor.statement = some i) (f : Failure) (s : Session (Traced σ)) :
    ∃ t s', d.traced.failCursor cursor f s = ((.error (.ofFailure f), cursor.spent), s') ∧
      Passed s s' t ∧ Releases i cursor.current t := by
  obtain ⟨t, s', hr, ht, h⟩ := release_passed (d := d) cursor hi
    (Session.debug s!"Result cursor failed: {(Error.ofFailure f).message}" s).2
  refine ⟨t, s', ?_, ht, h⟩
  have hdebug (text : String) : Session.debug text s = ((), (Session.debug text s).2) := rfl
  unfold Driver.failCursor
  rw [bind_of_run (hdebug _), bind_of_run hr]
  rfl

theorem describeRow_moves {cursor : ResultCursor τ} {i : StatementId} {t : List Exchange}
    {c : CursorId} {switched : Bool} (hi : cursor.On i)
    (hs : Seeks i cursor.current cursor.stale t (.row c switched))
    (hstale : cursor.stale = true → switched = true) {s s' : Session (Traced σ)}
    (ht : Passed s s' t) :
    ∃ u r cursor' s'',
      d.traced.describeRow { cursor with current := some c, stale := switched } s' =
        ((r, cursor'), s'') ∧ Passed s s'' u ∧ Moves i cursor u r cursor' := by
  have hon := hi.moved (c := c) hstale
  cases switched with
  | false =>
      obtain ⟨row, hrow, hshown⟩ := hon.currentRow?_eq rfl rfl
      refine ⟨_, _, _, _, congrFun (Driver.describeRow_known fun h => by cases h) s',
        ht.trans (.refl s'), ?_⟩
      rw [hshown]
      have hkept : ({ cursor with current := some c, stale := false } : ResultCursor τ) =
          { cursor with current := some c, row := some row, stale := false } := by
        rw [← hrow]
      rw [hkept]
      exact .row hs fun _ hx => absurd hx List.not_mem_nil
  | true =>
      generalize hd : (d.traced.perform (.columns c)).run s' = described
      obtain ⟨answer, s₁⟩ := described
      have hcall := Passed.call hd
      rw [Driver.describeRow_stale rfl rfl, bind_of_run hd]
      cases answer with
      | ok columns =>
          obtain ⟨row, hrow, hshown⟩ := ResultCursor.currentRow?_describe
            { cursor with current := some c, stale := true } rfl columns
          refine ⟨_, _, _, _, rfl, ht.trans hcall, ?_⟩
          rw [hshown]
          have hmade : ({ cursor with current := some c, stale := true } : ResultCursor τ).describe
              columns = { cursor with current := some c, row := some row, stale := false } := by
            rw [← hrow]
            rfl
          rw [hmade]
          exact .row hs (List.forall_mem_singleton.mpr trivial)
      | error f =>
          obtain ⟨u, s₂, hr, hu, h⟩ := failCursor_passed (d := d)
            { cursor with current := some c, stale := true } hi.statement f s₁
          refine ⟨_, _, _, _, hr, ht.trans (hcall.trans hu), ?_⟩
          exact .undescribed hs h

theorem fireHandler_fires {cursor : ResultCursor τ} {mapper : OutMapper τ} {i : StatementId}
    (hi : cursor.On i) (hh : cursor.handler = .armed mapper) (s : Session (Traced σ)) :
    ∃ u r s', d.traced.fireHandler cursor s =
        ((r.map fun _ => (), { cursor with handler := .fired r.toOption }), s') ∧
      Passed s s' u ∧ OutReplays i (mapper cursor.slots).run u r := by
  generalize ho : (d.traced.readOut i (mapper cursor.slots)).run s = answered
  obtain ⟨r, s'⟩ := answered
  obtain ⟨u, hu, hreplays⟩ := readOut_replays ho
  refine ⟨u, r, s', ?_, hu, hreplays⟩
  rw [Driver.fireHandler_armed hi hh, bind_of_run ho]
  cases r <;> rfl

theorem finish_moves {cursor : ResultCursor τ} {i : StatementId} {t : List Exchange}
    (hi : cursor.On i) (hs : Seeks i cursor.current cursor.stale t .exhausted)
    {s s' : Session (Traced σ)} (ht : Passed s s' t) :
    ∃ u r cursor' s'', d.traced.finish { cursor with current := none } s' =
        ((r, cursor'), s'') ∧ Passed s s'' u ∧ Moves i cursor u r cursor' := by
  unfold Driver.finish
  by_cases hh : ∃ mapper, cursor.handler = .armed mapper
  · obtain ⟨mapper, hh⟩ := hh
    obtain ⟨u, r, s₁, hfire, hu, hreplays⟩ := fireHandler_fires (d := d) (hi.held none) hh s'
    obtain ⟨v, s₂, hr, hv, hrel⟩ := release_passed (d := d)
      { cursor with current := none, handler := .fired r.toOption } hi.statement s₁
    cases hrel with
    | statement b =>
        refine ⟨_, r.map fun _ => none, _, s₂, ?_, ht.trans (hu.trans hv),
          .served hs hh hreplays⟩
        rw [bind_of_run hfire]
        dsimp only
        rw [bind_of_run hr]
        cases r <;> rfl
  · have hh : ∀ mapper, cursor.handler ≠ .armed mapper := not_exists.mp hh
    obtain ⟨v, s₂, hr, hv, hrel⟩ := release_passed (d := d)
      { cursor with current := none } hi.statement s'
    cases hrel with
    | statement b =>
        refine ⟨_, .ok none, _, s₂, ?_, ht.trans hv, .finished hs hh⟩
        rw [Driver.fireHandler_silent { cursor with current := none } hh, pure_bind]
        dsimp only
        rw [bind_of_run hr]
        rfl

theorem nextRow_moves {cursor : ResultCursor τ} {i : StatementId} (hi : cursor.On i)
    (s : Session (Traced σ)) :
    ∃ t r cursor' s', d.traced.nextRow cursor s = ((r, cursor'), s') ∧ Passed s s' t ∧
      Moves i cursor t r cursor' := by
  obtain ⟨t, ht, hs⟩ := seek_passed (d := d) i cursor.current cursor.stale s
  generalize hsought : d.traced.seek (some i) cursor.current cursor.stale s = sought at ht hs
  obtain ⟨sought, s'⟩ := sought
  rw [Driver.nextRow_on hi, bind_of_run hsought]
  cases sought with
  | row c switched => exact describeRow_moves hi hs (Driver.stale_of_seek hsought) ht
  | exhausted => exact finish_moves hi hs ht
  | failed f held =>
      obtain ⟨u, s'', hr, hu, h⟩ := failCursor_passed (d := d)
        { cursor with current := held } hi.statement f s'
      exact ⟨_, _, _, _, hr, ht.trans hu, .failed hs h⟩

namespace Moves

variable {i : StatementId} {cursor cursor' : ResultCursor τ} {t : List Exchange}

/-- A row is found and described, and the cursor is on it from then on. -/
theorem of_row {current : CurrentRow} (h : Moves i cursor t (.ok (some current)) cursor') :
    ∃ u v switched, t = u ++ v ∧
      Seeks i cursor.current cursor.stale u (.row current.cursor switched) ∧
      (∀ x ∈ v, x.OfRow) ∧ cursor' =
        { cursor with
          current := some current.cursor, row := some current.row, stale := false } := by
  generalize hr : (Except.ok (some current) : Except Error (Option CurrentRow)) = r at h
  cases h with
  | row hs hu =>
      cases hr
      exact ⟨_, _, _, rfl, hs, hu, rfl⟩
  | undescribed | failed | finished => cases hr
  | @served t u mapper r b => cases r <;> cases hr

/-- Only a row leaves a cursor open. -/
theorem spent {r : Except Error (Option CurrentRow)} (h : Moves i cursor t r cursor')
    (hr : ∀ current, r ≠ .ok (some current)) : cursor'.Spent := by
  cases h with
  | row => exact absurd rfl (hr _)
  | undescribed | failed | finished | served => exact ⟨rfl, rfl, rfl⟩

theorem on_of_row {current : CurrentRow} (h : Moves i cursor t (.ok (some current)) cursor')
    (hi : cursor.On i) : cursor'.On i := by
  obtain ⟨u, v, switched, -, -, -, rfl⟩ := h.of_row
  exact ⟨hi.closed, hi.statement, fun _ => rfl⟩

end Moves

/-! ## Turns -/

/-- What passes during a turn on an open cursor, what the turn gives, and the cursor that it
leaves. -/
inductive Takes (i : StatementId) (cursor : ResultCursor τ) :
    List Exchange → Given (Traced σ) α → ResultCursor τ → Prop
  | row {t u : List Exchange} {current : CurrentRow} {cursor' : ResultCursor τ}
      {seen : Session (Traced σ)} {read : Except Error α}
      (h : Moves i cursor t (.ok (some current)) cursor') (hu : ∀ x ∈ u, x.OfRow) :
      Takes i cursor (t ++ u) (.row current seen read) cursor'
  | unmapped {t u v : List Exchange} {current : CurrentRow} {cursor' : ResultCursor τ}
      {seen : Session (Traced σ)} {e : Error}
      (h : Moves i cursor t (.ok (some current)) cursor') (hu : ∀ x ∈ u, x.OfRow)
      (hv : Releases i cursor'.current v) :
      Takes i cursor (t ++ (u ++ v)) (.unmapped current seen e) cursor'.spent
  | ended {t : List Exchange} {cursor' : ResultCursor τ}
      (h : Moves i cursor t (.ok none) cursor') : Takes i cursor t .ended cursor'
  | failed {t : List Exchange} {e : Error} {cursor' : ResultCursor τ}
      (h : Moves i cursor t (.error e) cursor') : Takes i cursor t (.failed e) cursor'

namespace Takes

variable {i : StatementId} {cursor cursor' : ResultCursor τ} {t : List Exchange}
  {g : Given (Traced σ) α}

theorem spent (h : Takes i cursor t g cursor') (hg : g.isLast = true) : cursor'.Spent := by
  cases h with
  | row => cases hg
  | unmapped => exact ⟨rfl, rfl, rfl⟩
  | ended hm | failed hm => exact hm.spent nofun

theorem on_of_row (h : Takes i cursor t g cursor') (hg : g.isLast = false) (hi : cursor.On i) :
    cursor'.On i := by
  cases h with
  | row hm => exact hm.on_of_row hi
  | unmapped | ended | failed => cases hg

end Takes

theorem useRow_takes (turn : Turn α) {cursor cursor' : ResultCursor τ} {i : StatementId}
    {t : List Exchange} {current : CurrentRow} (hi : cursor'.statement = some i)
    (h : Moves i cursor t (.ok (some current)) cursor') {s s' : Session (Traced σ)}
    (ht : Passed s s' t) :
    ∃ u given cursor'' s'', d.traced.useRow current cursor' s' turn = ((given, cursor''), s'') ∧
      Passed s s'' u ∧ Takes i cursor u given cursor'' := by
  cases turn with
  | next reading =>
      generalize hr : (d.traced.readRow current.cursor (reading current.row)).run s' = result
      obtain ⟨read, s₁⟩ := result
      obtain ⟨u, hu, hrow⟩ := readRow_ofRow hr
      simp only [Driver.useRow, hr]
      exact ⟨_, _, _, _, rfl, ht.trans hu, .row h hrow⟩
  | map mapper =>
      generalize hr : (d.traced.readRow current.cursor (mapper current.row)).run s' = result
      obtain ⟨read, s₁⟩ := result
      obtain ⟨u, hu, hrow⟩ := readRow_ofRow hr
      simp only [Driver.useRow, hr]
      cases read with
      | ok a => exact ⟨_, _, _, _, rfl, ht.trans hu, .row h hrow⟩
      | error e =>
          obtain ⟨v, s₂, hrel, hv, hreleases⟩ := release_passed (d := d) cursor' hi s₁
          simp only [hrel]
          exact ⟨_, _, _, _, rfl, ht.trans (hu.trans hv), .unmapped h hrow hreleases⟩

theorem takeTurn_takes (turn : Turn α) {cursor : ResultCursor τ} {i : StatementId}
    (hi : cursor.On i) (s : Session (Traced σ)) :
    ∃ t given cursor' s', d.traced.takeTurn turn cursor s = ((given, cursor'), s') ∧
      Passed s s' t ∧ Takes i cursor t given cursor' := by
  obtain ⟨t, r, cursor', s', hr, ht, h⟩ := nextRow_moves (d := d) hi s
  simp only [Driver.takeTurn, hr]
  rcases r with e | _ | current
  · exact ⟨t, _, _, _, rfl, ht, .failed h⟩
  · exact ⟨t, _, _, _, rfl, ht, .ended h⟩
  · exact useRow_takes turn (h.on_of_row hi).statement h ht

end SqlGateway
