import SqlGateway.Database.Scripted.Driver
import SqlGateway.Proofs.Act.Execution
import SqlGateway.Proofs.Walk.Passage

/-!
# The turn of the output handler

However a call's rows are walked, and wherever the walk stops, the handler for its output values has
its turn once every set of rows has been read to its end and closed and the driver has said that
there is no further result, and not before or otherwise. That is before the statement is closed, and
what the handler makes of the values is what that turn of the walk gives.
-/

namespace SqlGateway

variable {σ τ α : Type} {d : Driver σ}

/-! ## Giving a walk up -/

/-- What becomes of a cursor after a walk. -/
inductive Ending where
  | kept
  | closed
  | dropped

def Driver.endWalk (d : Driver σ) (cursor : ResultCursor τ) : Ending → Plain σ Unit
  | .kept => pure ()
  | .closed => discard (d.close cursor).run
  | .dropped => d.drop cursor

/-! ## Exchanges and the handler -/

namespace Exchange

/-- An exchange in which no output value is asked for and the driver does not say that there is no
further result. -/
def Quiet : Exchange → Prop
  | .call (.moreResults _) (.ok false) | .call (.outValue ..) _ => False
  | _ => True

/-- A quiet exchange that does not close a statement. -/
def Waiting : Exchange → Prop
  | .call (.moreResults _) (.ok false) | .call (.outValue ..) _ | .call (.closeStatement _) _ =>
      False
  | _ => True

theorem Waiting.quiet {x : Exchange} (h : x.Waiting) : x.Quiet := by
  unfold Quiet
  split
  · exact h
  · exact h
  · trivial

end Exchange

/-- What a turn gives in which the handler has come to a result. -/
def Given.served : Except Error τ → Given σ α
  | .ok _ => .ended
  | .error e => .failed e

/-- How the handler fares in a walk with this trace that gave this much: it waits, or it has been
served the output values after the last result and before the statement was closed. -/
inductive Fares (i : StatementId) (mapper : OutMapper τ) (slots : List OutSlot) :
    List Exchange → List (Given σ α) → OutHandler τ → Prop
  | waiting {t : List Exchange} {given : List (Given σ α)} (ht : ∀ x ∈ t, x.Quiet) :
      Fares i mapper slots t given (.armed mapper)
  | served {t u v : List Exchange} {given : List (Given σ α)} {c : Option CursorId}
      {switched : Bool} {r : Except Error τ} {b : Except Failure Unit} {n : Nat}
      (ht : ∀ x ∈ t, x.Waiting) (hu : Seeks i c switched u .exhausted)
      (hv : OutReplays i (mapper slots).run v r) (hgiven : ∀ g ∈ given, g.isLast = false) :
      Fares i mapper slots (t ++ (u ++ (v ++ [.call (.closeStatement i) b])))
        (given ++ Given.served r :: List.replicate n .ended) (.fired r.toOption)

/-! ## One move -/

theorem Seeks.waiting {i : StatementId} {c : Option CursorId} {switched : Bool}
    {t : List Exchange} {r : Sought} (h : Seeks i c switched t r) (hr : r ≠ .exhausted) :
    ∀ x ∈ t, x.Waiting := by
  induction h with
  | found | unmoved | unanswered => exact List.forall_mem_singleton.mpr trivial
  | unclosed | unopened =>
      exact List.forall_mem_cons.mpr ⟨trivial, List.forall_mem_singleton.mpr trivial⟩
  | closed c h ih | passed c h ih | opened c h ih =>
      exact List.forall_mem_cons.mpr ⟨trivial, List.forall_mem_cons.mpr ⟨trivial, ih hr⟩⟩
  | last => exact absurd rfl hr

theorem waiting_of_ofRow {t : List Exchange} (h : ∀ x ∈ t, x.OfRow) : ∀ x ∈ t, x.Waiting := by
  intro x hx
  have hrow := h x hx
  unfold Exchange.OfRow at hrow
  split at hrow
  case h_5 => exact hrow.elim
  all_goals exact trivial

theorem Releases.quiet {i : StatementId} {c : Option CursorId} {t : List Exchange}
    (h : Releases i c t) : ∀ x ∈ t, x.Quiet := by
  cases h with
  | both c a b =>
      exact List.forall_mem_cons.mpr ⟨trivial, List.forall_mem_singleton.mpr trivial⟩
  | statement b => exact List.forall_mem_singleton.mpr trivial

theorem quiet_of_waiting {t : List Exchange} (h : ∀ x ∈ t, x.Waiting) : ∀ x ∈ t, x.Quiet :=
  fun x hx => (h x hx).quiet

/-- What a move does for an armed handler. -/
inductive Serves (i : StatementId) (mapper : OutMapper τ) (slots : List OutSlot) :
    List Exchange → Except Error (Option CurrentRow) → OutHandler τ → Prop
  | row {t : List Exchange} {current : CurrentRow} (ht : ∀ x ∈ t, x.Waiting) :
      Serves i mapper slots t (.ok (some current)) (.armed mapper)
  | failed {t : List Exchange} {e : Error} (ht : ∀ x ∈ t, x.Quiet) :
      Serves i mapper slots t (.error e) (.armed mapper)
  | served {t u : List Exchange} {c : Option CursorId} {switched : Bool} {r : Except Error τ}
      {b : Except Failure Unit} (ht : Seeks i c switched t .exhausted)
      (hu : OutReplays i (mapper slots).run u r) :
      Serves i mapper slots (t ++ (u ++ [.call (.closeStatement i) b])) (r.map fun _ => none)
        (.fired r.toOption)

namespace Serves

variable {i : StatementId} {mapper : OutMapper τ} {slots : List OutSlot} {t : List Exchange}
  {handler : OutHandler τ}

theorem of_row {current : CurrentRow} (h : Serves i mapper slots t (.ok (some current)) handler) :
    (∀ x ∈ t, x.Waiting) ∧ handler = .armed mapper := by
  generalize hr : (Except.ok (some current) : Except Error (Option CurrentRow)) = r at h
  cases h with
  | row ht => exact ⟨ht, rfl⟩
  | failed => cases hr
  | @served t u c switched r b => cases r <;> cases hr

theorem of_none (h : Serves i mapper slots t (.ok none) handler) (n : Nat) :
    Fares i mapper slots t (.ended :: List.replicate n .ended : List (Given σ α)) handler := by
  generalize hr : (Except.ok none : Except Error (Option CurrentRow)) = r at h
  cases h with
  | row | failed => cases hr
  | @served t u c switched r b ht hu =>
      cases r with
      | ok value =>
          exact .served (fun _ hx => absurd hx List.not_mem_nil) ht hu
            fun _ hg => absurd hg List.not_mem_nil
      | error e => cases hr

theorem of_error {e : Error} (h : Serves i mapper slots t (.error e) handler) (n : Nat) :
    Fares i mapper slots t (.failed e :: List.replicate n .ended : List (Given σ α)) handler := by
  generalize hr : (Except.error e : Except Error (Option CurrentRow)) = r at h
  cases h with
  | row => cases hr
  | failed ht => exact .waiting ht
  | @served t u c switched r b ht hu =>
      cases r with
      | ok value => cases hr
      | error e' =>
          cases hr
          exact .served (fun _ hx => absurd hx List.not_mem_nil) ht hu
            fun _ hg => absurd hg List.not_mem_nil

end Serves

theorem Moves.serves {i : StatementId} {cursor cursor' : ResultCursor τ} {t : List Exchange}
    {r : Except Error (Option CurrentRow)} {mapper : OutMapper τ} (h : Moves i cursor t r cursor')
    (hh : cursor.handler = .armed mapper) :
    Serves i mapper cursor.slots t r cursor'.handler := by
  cases h with
  | row hs hu =>
      change Serves i mapper cursor.slots _ _ cursor.handler
      rw [hh]
      exact .row (List.forall_mem_append.mpr ⟨hs.waiting nofun, waiting_of_ofRow hu⟩)
  | undescribed hs hu =>
      change Serves i mapper cursor.slots _ _ cursor.handler
      rw [hh]
      refine .failed (List.forall_mem_append.mpr ⟨quiet_of_waiting (hs.waiting nofun), ?_⟩)
      exact List.forall_mem_cons.mpr ⟨trivial, hu.quiet⟩
  | failed hs hu =>
      change Serves i mapper cursor.slots _ _ cursor.handler
      rw [hh]
      exact .failed (List.forall_mem_append.mpr ⟨quiet_of_waiting (hs.waiting nofun), hu.quiet⟩)
  | finished hs hnone => exact absurd hh (hnone mapper)
  | served hs harmed hu =>
      obtain rfl := OutHandler.armed.inj (hh.symm.trans harmed)
      exact .served hs hu

/-! ## One turn -/

namespace Fares

variable {i : StatementId} {mapper : OutMapper τ} {slots : List OutSlot} {t u : List Exchange}
  {given : List (Given σ α)} {handler : OutHandler τ}

/-- A row before the rest of the walk. -/
theorem after_row {g : Given σ α} (ht : ∀ x ∈ t, x.Waiting) (hg : g.isLast = false)
    (h : Fares i mapper slots u given handler) :
    Fares i mapper slots (t ++ u) (g :: given) handler := by
  cases h with
  | waiting hu => exact .waiting (List.forall_mem_append.mpr ⟨quiet_of_waiting ht, hu⟩)
  | served hu hseek hv hgiven =>
      rw [← List.append_assoc t, ← List.cons_append]
      exact .served (List.forall_mem_append.mpr ⟨ht, hu⟩) hseek hv
        (List.forall_mem_cons.mpr ⟨hg, hgiven⟩)

theorem quiet (h : Fares i mapper slots t given (.armed mapper)) : ∀ x ∈ t, x.Quiet := by
  cases h with
  | waiting ht => exact ht

/-- The handler has had its turn if and only if the driver has said that there is no further
result. -/
theorem fired_iff (h : Fares i mapper slots t given handler) :
    (∃ delivered, handler = .fired delivered) ↔ .call (.moreResults i) (.ok false) ∈ t := by
  cases h with
  | waiting ht =>
      constructor
      · intro ⟨delivered, hd⟩
        cases hd
      · intro hmem
        exact (ht _ hmem).elim
  | served ht hu hv hgiven =>
      constructor
      · intro _
        exact List.mem_append_right _ (List.mem_append_left _ hu.mem_of_exhausted)
      · intro _
        exact ⟨_, rfl⟩

end Fares

/-- One turn with an armed handler: a row after which the handler is still armed, or the last turn
that gives anything. -/
theorem Takes.fares {i : StatementId} {cursor cursor' : ResultCursor τ} {t : List Exchange}
    {g : Given (Traced σ) α} {mapper : OutMapper τ} (h : Takes i cursor t g cursor')
    (hi : cursor.On i) (hh : cursor.handler = .armed mapper) :
    ((∀ x ∈ t, x.Waiting) ∧ g.isLast = false ∧ cursor'.On i ∧
        cursor'.handler = .armed mapper ∧ cursor'.slots = cursor.slots) ∨
      (cursor'.Spent ∧ ∀ n, Fares i mapper cursor.slots t (g :: List.replicate n .ended)
        cursor'.handler) := by
  cases h with
  | row hm hu =>
      obtain ⟨ht, hhandler⟩ := (hm.serves hh).of_row
      have hi' := hm.on_of_row hi
      obtain ⟨_, _, _, -, -, -, rfl⟩ := hm.of_row
      exact .inl ⟨List.forall_mem_append.mpr ⟨ht, waiting_of_ofRow hu⟩, rfl, hi', hhandler, rfl⟩
  | unmapped hm hu hv =>
      obtain ⟨ht, hhandler⟩ := (hm.serves hh).of_row
      obtain ⟨_, _, _, -, -, -, rfl⟩ := hm.of_row
      refine .inr ⟨ResultCursor.spent_spent _, fun n => ?_⟩
      change Fares i mapper cursor.slots _ _ cursor.handler
      rw [hh]
      refine .waiting (List.forall_mem_append.mpr ⟨quiet_of_waiting ht, ?_⟩)
      exact List.forall_mem_append.mpr ⟨quiet_of_waiting (waiting_of_ofRow hu), hv.quiet⟩
  | ended hm => exact .inr ⟨hm.spent nofun, (hm.serves hh).of_none⟩
  | failed hm => exact .inr ⟨hm.spent nofun, (hm.serves hh).of_error⟩

/-! ## Walks -/

theorem takeTurns_fares (turns : List (Turn α)) {cursor : ResultCursor τ} {i : StatementId}
    {mapper : OutMapper τ} (hi : cursor.On i) (hh : cursor.handler = .armed mapper)
    (s : Session (Traced σ)) :
    ∃ t given cursor' s', d.traced.takeTurns cursor s turns = ((given, cursor'), s') ∧
      Passed s s' t ∧ Fares i mapper cursor.slots t given cursor'.handler ∧
      (cursor'.Spent ∨ cursor'.On i ∧ cursor'.handler = .armed mapper) := by
  induction turns generalizing cursor s with
  | nil =>
      refine ⟨[], [], cursor, s, rfl, .refl s, ?_, .inr ⟨hi, hh⟩⟩
      rw [hh]
      exact .waiting fun _ hx => absurd hx List.not_mem_nil
  | cons turn turns ih =>
      obtain ⟨t, g, cursor', s', hturn, ht, htakes⟩ := takeTurn_takes (d := d) turn hi s
      simp only [Driver.takeTurns, hturn]
      obtain ⟨hwaiting, hg, hi', hh', hslots⟩ | ⟨hspent, hfares⟩ := htakes.fares hi hh
      · obtain ⟨u, given, cursor'', s'', hrest, hu, hfares, hleft⟩ := ih hi' hh' s'
        rw [hslots] at hfares
        exact ⟨_, _, _, _, by rw [hrest], ht.trans hu, hfares.after_row hwaiting hg, hleft⟩
      · refine ⟨t, _, cursor', s', ?_, ht, hfares turns.length, .inl hspent⟩
        rw [Driver.takeTurns_of_closed hspent.closed]

/-! ## Giving up -/

theorem close_passed {cursor : ResultCursor τ} {i : StatementId} (hi : cursor.statement = some i)
    (s : Session (Traced σ)) :
    ∃ t, Passed s ((d.traced.close cursor).run s).2 t ∧ Releases i cursor.current t := by
  have closed (c : Call) (s : Session (Traced σ)) :
      ∃ r r' s', (ExceptT.lift (surfaced (d.traced.perform c)).run :
          Act (Traced σ) Error (Except Error c.Answer)).run s = (.ok r', s') ∧
        Passed s s' [.call c r] :=
    ⟨_, _, _, rfl, Passed.call rfl⟩
  have report (first second : Except Error Unit) (s : Session (Traced σ)) :
      ((do
        MonadExcept.ofExcept first
        MonadExcept.ofExcept second : Act (Traced σ) Error Unit).run s).2 = s := by
    cases first <;> cases second <;> rfl
  obtain ⟨statement, current, row, stale, slots, handler⟩ := cursor
  obtain rfl : statement = some i := hi
  rw [Driver.close_eq]
  cases current with
  | none =>
      obtain ⟨b, second, s', hb, hpassed⟩ := closed (.closeStatement i) s
      refine ⟨_, ?_, .statement b⟩
      dsimp only
      rw [pure_bind, run_bind_of_ok hb, report]
      exact hpassed
  | some c =>
      obtain ⟨a, first, s', ha, hpassed⟩ := closed (.closeCursor c) s
      obtain ⟨b, second, s'', hb, hpassed'⟩ := closed (.closeStatement i) s'
      refine ⟨_, ?_, .both c a b⟩
      dsimp only
      rw [run_bind_of_ok ha, run_bind_of_ok hb, report]
      exact hpassed.trans hpassed'

/-- Nothing is left to do with a spent cursor. -/
theorem endWalk_spent {cursor : ResultCursor τ} (h : cursor.Spent) (ending : Ending)
    (s : Session σ) : (d.endWalk cursor ending s).2 = s := by
  obtain ⟨statement, current, row, stale, slots, handler, closed⟩ := cursor
  obtain rfl : closed = true := h.closed
  obtain rfl : statement = none := h.statement
  obtain rfl : current = none := h.current
  cases ending <;> rfl

theorem endWalk_quiet {cursor : ResultCursor τ} {i : StatementId} (hi : cursor.On i)
    (ending : Ending) (s : Session (Traced σ)) :
    ∃ t, Passed s (d.traced.endWalk cursor ending s).2 t ∧ ∀ x ∈ t, x.Quiet := by
  cases ending with
  | kept => exact ⟨[], .refl s, fun _ hx => absurd hx List.not_mem_nil⟩
  | closed =>
      obtain ⟨t, ht, h⟩ := close_passed (d := d) hi.statement s
      exact ⟨t, ht, h.quiet⟩
  | dropped =>
      obtain ⟨t, s', hr, ht, h⟩ := release_passed (d := d) cursor hi.statement s
      refine ⟨t, ?_, h.quiet⟩
      unfold Driver.endWalk Driver.drop ResultCursor.isClosed
      rw [hi.closed]
      change Passed s (d.traced.release cursor s).2 t
      rw [hr]
      exact ht

/-! ## Calls -/

/-- A call that is executed with a handler brings a cursor that holds the statement and has the
handler armed. -/
theorem executeCall_armed {sql : String} {params : List Parameter} {options : Options}
    {mapper : OutMapper τ} {s s' : Session σ} {cursor : ResultCursor τ}
    (h : (d.executeCall sql params options (some mapper)).run s = (.ok cursor, s')) :
    ∃ i, cursor.On i ∧ cursor.handler = .armed mapper := by
  have any {β : Type} (act : Act σ Error β) :
      Secures (fun _ => True) act (fun _ _ => True) fun _ => True := by
    intro s _
    cases (act.run s).1 <;> trivial
  have armed : Secures (fun _ => True) (d.executeCall sql params options (some mapper))
      (fun cursor _ => ∃ i, cursor.On i ∧ cursor.handler = .armed mapper)
      fun _ => True := by
    refine Secures.bind (any _) fun r => ?_
    refine Secures.bind (any _) fun i => ?_
    refine Secures.bind (any _) fun current => ?_
    exact Secures.pure fun _ _ => ⟨i, (ResultCursor.on_ofStatement i current).withHandler _ _, rfl⟩
  exact Triple.of_run armed trivial h

/-- The handler of a call has its values, and gives what it makes of them, where the last result has
come to its end: it is fired if and only if there were no more results, and then just once, after
the statement was closed. If the caller turns away before that, the handler is never fired. -/
theorem output_handler_on_exhaustion {sql : String} {params : List Parameter} {options : Options}
    {mapper : OutMapper τ} {turns : List (Turn α)} {ending : Ending}
    {s s₁ s₂ s₃ : Session (Traced σ)} {cursor cursor' : ResultCursor τ}
    {given : List (Given (Traced σ) α)}
    (hcall : (d.traced.executeCall sql params options (some mapper)).run s = (.ok cursor, s₁))
    (hwalk : d.traced.takeTurns cursor s₁ turns = ((given, cursor'), s₂))
    (hend : d.traced.endWalk cursor' ending s₂ = ((), s₃)) :
    ∃ i t, cursor.statement = some i ∧ Passed s₁ s₃ t ∧
      Fares i mapper cursor.slots t given cursor'.handler ∧
      ((∃ delivered, cursor'.handler = .fired delivered) ↔
        .call (.moreResults i) (.ok false) ∈ t) := by
  obtain ⟨i, hi, hh⟩ := executeCall_armed hcall
  obtain ⟨t, given, cursor', s₂, hrun, ht, hfares, hleft⟩ := takeTurns_fares (d := d) turns hi hh s₁
  cases hrun.symm.trans hwalk
  obtain hspent | ⟨hi', hh'⟩ := hleft
  · have hs : s₃ = s₂ := by rw [← endWalk_spent hspent ending s₂, hend]
    subst hs
    exact ⟨i, t, hi.statement, ht, hfares, hfares.fired_iff⟩
  · obtain ⟨u, hu, hquiet⟩ := endWalk_quiet (d := d) hi' ending s₂
    rw [hend] at hu
    rw [hh'] at hfares ⊢
    have hfares : Fares i mapper cursor.slots (t ++ u) given (.armed mapper) :=
      .waiting (List.forall_mem_append.mpr ⟨hfares.quiet, hquiet⟩)
    exact ⟨i, t ++ u, hi.statement, ht.trans hu, hfares, hfares.fired_iff⟩

open Database in
/-- One row is mapped, and with the next turn the handler has the output value. -/
theorem output_handler_on_exhaustion_one_row :
    ∃ (cursor cursor' : ResultCursor Value) (s₁ s₂ s₃ : Session (Traced Scripted))
      (given : List (Given (Traced Scripted) RowMap)),
      (Scripted.driver.traced.executeCall "{call next(?)}" [⟨"n", .output .integer⟩] {}
        (some fun slots => OutSlot.get slots 1)).run
          { database := { database := { queue := [.ok {
            results := [some ⟨[⟨"ID", .integer⟩], [[.value (.int 1)]]⟩],
            out := [(1, .int 7)] }] } } } =
        (.ok cursor, s₁) ∧
      Scripted.driver.traced.takeTurns cursor s₁ [.map Row.toMap, .map Row.toMap] =
        ((given, cursor'), s₂) ∧
      Scripted.driver.traced.endWalk cursor' .dropped s₂ = ((), s₃) ∧
      cursor'.handler = .fired (some (.int 7)) ∧
      ∃ i t, cursor.statement = some i ∧ Passed s₁ s₃ t ∧
        Fares i (fun slots => OutSlot.get slots 1) cursor.slots t given cursor'.handler ∧
        ((∃ delivered, cursor'.handler = .fired delivered) ↔
          .call (.moreResults i) (.ok false) ∈ t) := by
  refine ⟨?_, ?_, ?_, ?_, ?_, ?_, ?call, ?walk, ?ending, ?_,
    output_handler_on_exhaustion ?call ?walk ?ending⟩
  case call => exact rfl
  case walk => exact rfl
  case ending => exact rfl
  decide +kernel

end SqlGateway
