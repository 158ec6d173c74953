import SqlGateway.Proofs.Walk.Delivery
import SqlGateway.Proofs.Walk.Passage

/-!
# Settling on a row

A move of a result cursor is a search, which may open further sets of rows, and what follows from
where that has led. Columns are asked for in the second part only, and only if the row is in a set
that is new to the cursor.
-/

namespace SqlGateway

variable {σ τ α : Type} {d : Driver σ}

/-! ## Exchanges -/

namespace Exchange

/-- The columns of a cursor were asked for. -/
def asksColumns (c : CursorId) : Exchange → Bool
  | .call (.columns c') _ => c' = c
  | _ => false

/-- A cursor moved to a row. -/
def stepsOn (c : CursorId) : Exchange → Bool
  | .call (.next c') (.ok true) => c' = c
  | _ => false

/-- The statement was closed, or at least that was tried. -/
def closes (i : StatementId) : Exchange → Bool
  | .call (.closeStatement j) _ => j = i
  | _ => false

/-- An exchange that neither moves a cursor nor asks for columns. -/
def Idle : Exchange → Prop
  | .call (.columns _) _ | .call (.next _) _ => False
  | _ => True

/-- An exchange that reads a cell of a row. -/
def OfCell : Exchange → Prop
  | .call (.getObject ..) _ | .call (.getBinaryStream ..) _
  | .call (.getCharacterStream ..) _ => True
  | _ => False

theorem OfCell.idle {x : Exchange} (h : x.OfCell) : x.Idle := by
  unfold OfCell at h
  split at h
  case h_4 => exact h.elim
  all_goals exact trivial

theorem OfCell.closes {x : Exchange} (h : x.OfCell) (i : StatementId) : x.closes i = false := by
  unfold OfCell at h
  split at h
  case h_4 => exact h.elim
  all_goals rfl

theorem Idle.asksColumns {x : Exchange} (h : x.Idle) (c : CursorId) : x.asksColumns c = false := by
  unfold Exchange.asksColumns
  split
  · exact h.elim
  · rfl

theorem Idle.stepsOn {x : Exchange} (h : x.Idle) (c : CursorId) : x.stepsOn c = false := by
  unfold Exchange.stepsOn
  split
  · exact h.elim
  · rfl

end Exchange

open Exchange

section

variable {t : List Exchange}

theorem countP_asksColumns_of_idle (h : ∀ x ∈ t, x.Idle) (c : CursorId) :
    t.countP (·.asksColumns c) = 0 :=
  List.countP_eq_zero.mpr fun x hx => Bool.eq_false_iff.mp ((h x hx).asksColumns c)

theorem any_stepsOn_of_idle (h : ∀ x ∈ t, x.Idle) (c : CursorId) : t.any (·.stepsOn c) = false :=
  List.any_eq_false.mpr fun x hx => Bool.eq_false_iff.mp ((h x hx).stepsOn c)

theorem any_stepsOn_append_of_idle {u : List Exchange} (h : ∀ x ∈ u, x.Idle) (c : CursorId) :
    (t ++ u).any (·.stepsOn c) = t.any (·.stepsOn c) := by
  rw [List.any_append, any_stepsOn_of_idle h, Bool.or_false]

theorem toNat_of_stepped {c : CursorId} (h : t.any (·.stepsOn c) = true) (c' : CursorId) :
    (t.any (·.stepsOn c')).toNat = (t.any (·.stepsOn c') || decide (c = c')).toNat := by
  by_cases hc : c = c'
  · rw [← hc, h, Bool.true_or]
  · rw [decide_eq_false hc, Bool.or_false]

theorem toNat_of_not_stepped {c : CursorId} (h : t.any (·.stepsOn c) = false) (c' : CursorId) :
    (t.any (·.stepsOn c')).toNat + (decide (c = c')).toNat =
      (t.any (·.stepsOn c') || decide (c = c')).toNat := by
  by_cases hc : c = c'
  · rw [← hc, h, Bool.false_or, Bool.toNat_false, Nat.zero_add]
  · rw [decide_eq_false hc, Bool.or_false, Bool.toNat_false, Nat.add_zero]

/-- Columns that are asked for, with nothing else that counts. -/
theorem countP_asksColumns_cons (h : ∀ x ∈ t, x.Idle) (c c' : CursorId)
    (answer : Except Failure (List Column)) :
    (.call (.columns c) answer :: t).countP (·.asksColumns c') = (decide (c = c')).toNat := by
  rw [List.countP_cons, countP_asksColumns_of_idle h, Nat.zero_add]
  change (if decide (c = c') = true then 1 else 0) = _
  cases decide (c = c') <;> rfl

theorem any_stepsOn_cons (h : ∀ x ∈ t, x.Idle) (c c' : CursorId)
    (answer : Except Failure (List Column)) :
    (.call (.columns c) answer :: t).any (·.stepsOn c') = false :=
  any_stepsOn_of_idle h c'

end

/-! ## Looking for a row -/

/-- Whether a search has come to a row of this cursor. -/
def Sought.isOn (c : CursorId) : Sought → Bool
  | .row c' _ => c' = c
  | _ => false

namespace Seeks

variable {i : StatementId} {current : Option CursorId} {switched : Bool} {t : List Exchange}
  {r : Sought}

theorem countP_asksColumns (h : Seeks i current switched t r) (c : CursorId) :
    t.countP (·.asksColumns c) = 0 := by
  induction h with
  | found | unmoved | unclosed | last | unanswered | unopened => rfl
  | closed _ _ ih | passed _ _ ih | opened _ _ ih => exact ih

theorem any_stepsOn (h : Seeks i current switched t r) (c : CursorId) :
    t.any (·.stepsOn c) = r.isOn c := by
  induction h with
  | found => simp [stepsOn, Sought.isOn]
  | unmoved | unclosed | last | unanswered | unopened => rfl
  | closed _ _ ih | passed _ _ ih | opened _ _ ih => exact ih

theorem any_closes (h : Seeks i current switched t r) (j : StatementId) :
    t.any (·.closes j) = false := by
  induction h with
  | found | unmoved | unclosed | last | unanswered | unopened => rfl
  | closed _ _ ih | passed _ _ ih | opened _ _ ih => exact ih

end Seeks

/-! ## Names of cursors -/

theorem cursors_of_perform {c : Call} {s s' : Session σ} {r : Except Failure c.Answer}
    (h : (d.perform c).run s = (r, s')) : s'.cursors = s.cursors := by
  cases h
  rfl

theorem cursors_of_openCursor {i : StatementId} {s s' : Session σ}
    {r : Except Failure (Option CursorId)} (h : (d.openCursor i).run s = (r, s')) :
    s.cursors ≤ s'.cursors ∧
      ∀ c, r = .ok (some c) → s.cursors < c.number ∧ c.number ≤ s'.cursors := by
  obtain ⟨answer, s₁, ho, ⟨f, -, rfl, rfl⟩ | ⟨-, rfl, rfl⟩ | ⟨-, rfl, rfl⟩⟩ := openCursor_run h
  · exact ⟨Nat.le_of_eq (cursors_of_perform ho).symm, nofun⟩
  · exact ⟨Nat.le_of_eq (cursors_of_perform ho).symm, nofun⟩
  · refine ⟨Nat.le_succ _, fun c hc => ?_⟩
    cases hc
    exact ⟨Nat.lt_succ_self _, Nat.le_refl _⟩

theorem cursors_of_openKeys {i : StatementId} {s s' : Session σ} {r : Except Failure CursorId}
    (h : (d.openKeys i).run s = (r, s')) : s.cursors ≤ s'.cursors := by
  change (d.perform (.generatedKeys i ⟨s.cursors + 1⟩) >>= _).run s = _ at h
  generalize ho : (d.perform (.generatedKeys i ⟨s.cursors + 1⟩)).run s = opened at h
  obtain ⟨answer, s₁⟩ := opened
  have hcursors := cursors_of_perform ho
  cases answer with
  | error f =>
      rw [run_bind_of_error ho] at h
      cases h
      exact Nat.le_of_eq hcursors.symm
  | ok opened =>
      rw [run_bind_of_ok ho] at h
      cases h
      exact Nat.le_succ _

/-- A name that was given to a cursor is not taken back. -/
theorem Driver.custody_cursors (d : Driver σ) (n : Nat) :
    Custody d fun _ s => n ≤ s.cursors := by
  have call (c : Call) : Keeps (fun s => n ≤ s.cursors) (d.perform c) :=
    d.perform_secures (fun _ _ _ _ hs => hs) fun _ _ _ _ hs => hs
  have prepare (sql : String) (kind : StatementKind) (keys : GeneratedKeys) :
      Keeps (fun s => n ≤ s.cursors) (d.prepare sql kind keys) := by
    refine Secures.bind (Secures.getState (Q := fun _ s => n ≤ s.cursors) fun _ hs => hs)
      fun s₀ => ?_
    refine Secures.bind (call _) fun _ => ?_
    exact Secures.bind (Secures.modifyState (Q := fun _ s => n ≤ s.cursors) fun _ hs => hs)
      fun _ => Keeps.pure
  exact {
    perm _ hs := hs
    log _ hs := hs
    ask _ _ := d.ask_triple fun _ _ _ _ hs => hs
    acquire _ := call _
    prepare sql kind keys _ := prepare sql kind keys
    workStatement _ _ _ := call _
    workCursor _ _ _ := call _
    openCursor _ _ := Secures.of_run fun _ hs => Nat.le_trans hs (cursors_of_openCursor rfl).1
    openKeys _ _ := Secures.of_run fun _ hs => Nat.le_trans hs (cursors_of_openKeys rfl)
    closeCursor _ _ _ := call _
    closeStatement _ _ := call _ }

/-- A row that was found is in the set that was open before, or in one that was opened since. The
cursors up to `n` had been made by then, and those up to `n'` have been made now. -/
def Sought.Follows (sought : Sought) (current : Option CursorId) (stale : Bool) (n n' : Nat) :
    Prop :=
  ∀ c switched, sought = .row c switched →
    (current = some c ∧ switched = stale) ∨ (switched = true ∧ n < c.number ∧ c.number ≤ n')

theorem Sought.Follows.mono {sought : Sought} {current : Option CursorId} {stale : Bool}
    {n n' m : Nat} (h : sought.Follows current stale n n') (hm : n' ≤ m) :
    sought.Follows current stale n m := by
  intro c switched hrow
  obtain hheld | ⟨hswitched, hlt, hle⟩ := h c switched hrow
  · exact .inl hheld
  · exact .inr ⟨hswitched, hlt, Nat.le_trans hle hm⟩

/-- Where no set was open, it is in one that was opened since. -/
theorem Sought.Follows.of_none {sought : Sought} {current : Option CursorId} {stale stale' : Bool}
    {n n' m : Nat} (h : sought.Follows none stale n n') (hm : m ≤ n) :
    sought.Follows current stale' m n' := by
  intro c switched hrow
  obtain ⟨hnone, -⟩ | ⟨hswitched, hlt, hle⟩ := h c switched hrow
  · cases hnone
  · exact .inr ⟨hswitched, Nat.lt_of_le_of_lt hm hlt, hle⟩

theorem seek_follows (i : StatementId) (current : Option CursorId) (switched : Bool)
    (s : Session σ) : (d.seek (some i) current switched s).1.Follows current switched s.cursors
      (d.seek (some i) current switched s).2.cursors := by
  fun_induction d.seek (some i) current switched s with
  | case1 switched s c s₁ hn =>
      intro c' switched' hrow
      cases hrow
      exact .inl ⟨rfl, rfl⟩
  | case2 switched s c s₁ hn s₂ a hc ih =>
      refine ih.of_none (Nat.le_of_eq ?_)
      rw [cursors_of_perform hc, cursors_of_perform hn]
  | case5 switched s j hj s₁ hm c s₂ ho ih =>
      intro c' switched' hrow
      obtain ⟨-, hopened⟩ := cursors_of_openCursor ho
      obtain ⟨hnew, hmade⟩ := hopened c rfl
      rw [cursors_of_perform hm] at hnew
      -- the row is in the set that was opened just now, or in one after it
      obtain ⟨hc, hswitched⟩ | ⟨hswitched, hlt, hle⟩ := ih c' switched' hrow
      · cases hc
        have hkept := (d.custody_cursors c.number).seek j (some c) true [] s₂ hmade
        exact .inr ⟨hswitched, hnew, hkept⟩
      · exact .inr ⟨hswitched, by omega, hle⟩
  | case6 switched s j hj s₁ hm s₂ ho ih =>
      obtain ⟨hmade, -⟩ := cursors_of_openCursor ho
      rw [cursors_of_perform hm] at hmade
      exact ih.of_none hmade
  | case3 | case4 | case7 | case8 | case9 | case10 =>
      intro c' switched' hrow
      cases hrow

/-! ## Reading cells -/

theorem Replays.ofCell {k : CursorId} {p : Reading CellRead CellRead.Answer α} {t : List Exchange}
    {a : α} (h : Replays k p t a) : ∀ x ∈ t, x.OfCell := by
  induction h with
  | done a => exact fun _ hx => absurd hx List.not_mem_nil
  | object h ih | binaryStream h ih | characterStream h ih =>
      exact List.forall_mem_cons.mpr ⟨trivial, ih⟩

theorem readRow_ofCell {c : CursorId} {reading : CellReading Error α} {s s' : Session (Traced σ)}
    {r : Except Error α} (h : (d.traced.readRow c reading).run s = (r, s')) :
    ∃ u, Passed s s' u ∧ ∀ x ∈ u, x.OfCell := by
  obtain ⟨u, hu, hreplays⟩ := readRow_replays (d := d) c reading s
  rw [h] at hu
  exact ⟨u, hu, hreplays.ofCell⟩

/-! ## Describing a row -/

/-- The readers of a row are those of its columns. -/
def Row.Fits (row : Row) : Prop :=
  row = .ofColumns row.columns

/-- What passes when a search has ended, what that gives, and the cursor that it leaves. -/
inductive Settles (i : StatementId) (cursor : ResultCursor τ) :
    Sought → List Exchange → Except Error (Option CurrentRow) → ResultCursor τ → Prop
  | known {c : CursorId} {row : Row} (hrow : cursor.row = some row) :
      Settles i cursor (.row c false) [] (.ok (some ⟨c, row⟩))
        { cursor with current := some c, stale := false }
  | described {c : CursorId} {columns : List Column} :
      Settles i cursor (.row c true) [.call (.columns c) (.ok columns)]
        (.ok (some ⟨c, .ofColumns columns⟩))
        { cursor with current := some c, row := some (.ofColumns columns), stale := false }
  | undescribed {c : CursorId} {f : Failure} {u : List Exchange} (hu : Releases i (some c) u) :
      Settles i cursor (.row c true) (.call (.columns c) (.error f) :: u)
        (.error (.ofFailure f)) { cursor.spent with stale := true }
  | closed {sought : Sought} {u : List Exchange} {r : Except Error (Option CurrentRow)}
      {cursor' : ResultCursor τ} (hs : ∀ c, sought.isOn c = false) (hu : ∀ x ∈ u, x.Idle)
      (hclosed : u.any (·.closes i) = true) (hspent : cursor' = cursor'.spent) :
      Settles i cursor sought u r cursor'

theorem Releases.idle {i : StatementId} {c : Option CursorId} {t : List Exchange}
    (h : Releases i c t) : ∀ x ∈ t, x.Idle := by
  cases h with
  | both c a b => exact List.forall_mem_cons.mpr ⟨trivial, List.forall_mem_singleton.mpr trivial⟩
  | statement b => exact List.forall_mem_singleton.mpr trivial

theorem Releases.any_closes {i : StatementId} {c : Option CursorId} {t : List Exchange}
    (h : Releases i c t) : t.any (·.closes i) = true := by
  cases h <;> simp [closes]

theorem OutReplays.idle {i : StatementId} {p : Reading OutRead OutRead.Answer α}
    {t : List Exchange} {a : α} (h : OutReplays i p t a) : ∀ x ∈ t, x.Idle := by
  induction h with
  | done a => exact fun _ hx => absurd hx List.not_mem_nil
  | ask h ih => exact List.forall_mem_cons.mpr ⟨trivial, ih⟩

theorem describeRow_settles {cursor : ResultCursor τ} {i : StatementId}
    (hi : cursor.On i) (hfits : ∀ row, cursor.row = some row → row.Fits)
    (c : CursorId) {switched : Bool} (hstale : cursor.stale = true → switched = true)
    (s : Session (Traced σ)) :
    ∃ u r cursor' s',
      d.traced.describeRow { cursor with current := some c, stale := switched } s =
        ((r, cursor'), s') ∧ Passed s s' u ∧ Settles i cursor (.row c switched) u r cursor' := by
  have hon := hi.moved (c := c) hstale
  cases switched with
  | true =>
      generalize hp : (d.traced.perform (.columns c)).run s = described
      obtain ⟨answer, s₁⟩ := described
      have hcall := Passed.call hp
      cases answer with
      | ok columns =>
          have hr :=
            describeRow_ok { cursor with current := some c, stale := true } rfl rfl hfits hp
          exact ⟨_, _, _, s₁, hr, hcall, .described⟩
      | error f =>
          obtain ⟨u, s₂, hr, hu, h⟩ := failCursor_passed (d := d)
            { cursor with current := some c, stale := true } hon.statement f s₁
          exact ⟨_, _, _, s₂, (describeRow_error _ rfl rfl hp).trans hr, hcall.trans hu,
            .undescribed h⟩
  | false =>
      obtain ⟨row, hrow⟩ := Option.isSome_iff_exists.mp (hon.described rfl)
      exact ⟨[], _, _, s, describeRow_described hrow rfl rfl s, .refl s, .known hrow⟩

theorem fireHandler_idle {cursor : ResultCursor τ} {i : StatementId} (hi : cursor.On i)
    (s : Session (Traced σ)) :
    ∃ u fired handler s', d.traced.fireHandler cursor s =
        ((fired, { cursor with handler := handler }), s') ∧
      Passed s s' u ∧ ∀ x ∈ u, x.Idle := by
  by_cases hh : ∃ mapper, cursor.handler = .armed mapper
  · obtain ⟨mapper, hh⟩ := hh
    obtain ⟨u, r, s', hfire, hu, hreplays⟩ := fireHandler_fires (d := d) hi hh s
    exact ⟨u, _, _, s', hfire, hu, hreplays.idle⟩
  · have hfire := Driver.fireHandler_silent (d := d.traced) cursor (not_exists.mp hh)
    exact ⟨[], _, _, s, congrFun hfire s, .refl s, fun _ hx => absurd hx List.not_mem_nil⟩

theorem finish_settles {cursor : ResultCursor τ} {i : StatementId}
    (hi : cursor.On i) (s : Session (Traced σ)) :
    ∃ u r cursor' s', d.traced.finish { cursor with current := none } s = ((r, cursor'), s') ∧
      Passed s s' u ∧ Settles i cursor .exhausted u r cursor' := by
  obtain ⟨u, fired, handler, s₁, hfire, hu, hidle⟩ := fireHandler_idle (d := d) (hi.held none) s
  obtain ⟨v, s₂, hr, hv, h⟩ := release_passed (d := d)
    { cursor with current := none, handler := handler } hi.statement s₁
  refine ⟨u ++ v, fired.map fun _ => none, { cursor.spent with handler }, s₂, ?_,
    hu.trans hv, ?_⟩
  · unfold Driver.finish
    rw [bind_of_run hfire]
    dsimp only
    rw [bind_of_run hr]
    rfl
  · refine .closed (fun _ => rfl) (List.forall_mem_append.mpr ⟨hidle, h.idle⟩) ?_ rfl
    rw [List.any_append, h.any_closes, Bool.or_true]

theorem nextRow_settles {cursor : ResultCursor τ} {i : StatementId}
    (hi : cursor.On i) (hfits : ∀ row, cursor.row = some row → row.Fits)
    (s : Session (Traced σ)) :
    ∃ t u sought r cursor' s', d.traced.nextRow cursor s = ((r, cursor'), s') ∧
      Passed s s' (t ++ u) ∧ s.cursors ≤ s'.cursors ∧
      Seeks i cursor.current cursor.stale t sought ∧
      sought.Follows cursor.current cursor.stale s.cursors s'.cursors ∧
      Settles i cursor sought u r cursor' := by
  obtain ⟨t, ht, hs⟩ := seek_passed (d := d) i cursor.current cursor.stale s
  have hfollows := seek_follows (d := d.traced) i cursor.current cursor.stale s
  have hfirst := (d.traced.custody_cursors s.cursors).seek i cursor.current cursor.stale [] s
    (Nat.le_refl _)
  generalize hsought : d.traced.seek (some i) cursor.current cursor.stale s = sought
    at ht hs hfollows hfirst
  obtain ⟨sought, s₁⟩ := sought
  have hI := d.traced.custody_cursors s₁.cursors
  rw [Driver.nextRow_on hi, bind_of_run hsought]
  cases sought with
  | row c switched =>
      have hstale := Driver.stale_of_seek hsought
      obtain ⟨u, r, cursor', s', hr, hu, h⟩ :=
        describeRow_settles (d := d) hi hfits c hstale s₁
      obtain ⟨-, hthen⟩ := (hI.describeRow _ (hi.moved hstale) rfl []).of_run (Nat.le_refl _) hr
      exact ⟨t, u, _, r, cursor', s', hr, ht.trans hu, Nat.le_trans hfirst hthen, hs,
        hfollows.mono hthen, h⟩
  | exhausted =>
      obtain ⟨u, r, cursor', s', hr, hu, h⟩ := finish_settles (d := d) hi s₁
      obtain ⟨-, hthen⟩ := (hI.finish _ (hi.held none) []).of_run (Nat.le_refl _) hr
      exact ⟨t, u, _, r, cursor', s', hr, ht.trans hu, Nat.le_trans hfirst hthen, hs,
        hfollows.mono hthen, h⟩
  | failed f held =>
      obtain ⟨u, s', hr, hu, h⟩ := failCursor_passed (d := d)
        { cursor with current := held } hi.statement f s₁
      obtain ⟨-, hthen⟩ := (hI.failCursor _ (hi.held held).sound f []).of_run (Nat.le_refl _) hr
      exact ⟨t, u, _, _, _, s', hr, ht.trans hu, Nat.le_trans hfirst hthen, hs,
        hfollows.mono hthen, .closed (fun _ => rfl) h.idle h.any_closes rfl⟩

end SqlGateway
