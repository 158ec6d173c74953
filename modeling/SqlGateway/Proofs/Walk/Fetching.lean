import SqlGateway.Proofs.Act.Execution
import SqlGateway.Proofs.Walk.Turn

/-!
# Walks that leave the output values alone

What calls by which a cursor is walked leave as it is stays so to the end of the walk. If that is
what the handler for the output values asks for, the handler comes to the same result whenever it
has its turn.
-/

namespace SqlGateway

variable {σ τ α : Type} {d : Driver σ} {P : Session σ → Prop}

/-- Whether results are fetched with the call, or what they are fetched from is closed with it. -/
def Call.fetches : Call → Bool
  | .resultCursor .. | .moreResults _ | .outValue .. | .closeStatement _ | .columns _ | .next _
  | .getObject .. | .getBinaryStream .. | .getCharacterStream .. | .closeCursor _ => true
  | _ => false

theorem Call.fetches_of_worksOn {c : Call} {k : CursorId} (hc : c.WorksOn (.cursor k)) :
    c.fetches = true := by
  obtain ⟨hh, -⟩ := hc
  cases c <;> first | rfl | cases hh

/-- Fetching leaves the condition as it is. -/
structure Unfetched (d : Driver σ) (P : Session σ → Prop) : Prop where
  log (s : Session σ) (l : List LogEntry) : P s → P { s with log := l }
  count (s : Session σ) (n m : Nat) : P s → P { s with statements := n, cursors := m }
  call (c : Call) : c.fetches = true → Keeps P (d.perform c)

/-- The handler of a cursor over the statement `i` stands by, or it has come to the result. -/
structure ResultCursor.Attends (i : StatementId) (slots : List OutSlot) (mapper : OutMapper τ)
    (result : Except Error τ) (cursor : ResultCursor τ) : Prop where
  sound : cursor.Spent ∨ cursor.On i
  slots : cursor.slots = slots
  handler : cursor.handler = .armed mapper ∨
    cursor.handler = .fired result.toOption ∧ cursor.Spent

namespace Unfetched

variable (h : Unfetched d P)
include h

theorem readRow (k : CursorId) (reading : CellReading Error α) : Keeps P (d.readRow k reading) :=
  Keeps.readRow (fun c hc => h.call c (Call.fetches_of_worksOn hc)) reading

theorem release (cursor : ResultCursor τ) :
    Triple P (d.release cursor) fun after s => after = cursor.spent ∧ P s := by
  have closed (c : CursorId) (what : String) :
      Triple P (orWarn (d.perform (.closeCursor c)) what) fun _ => P :=
    Secures.orWarn h.log (h.call (.closeCursor c) rfl)
  have ended (i : StatementId) (what : String) :
      Triple P (orWarn (d.perform (.closeStatement i)) what) fun _ => P :=
    Secures.orWarn h.log (h.call (.closeStatement i) rfl)
  have kept : Triple P (d.release cursor) fun _ => P := by
    obtain ⟨statement, current, row, stale, slots, handler⟩ := cursor
    cases current with
    | none =>
        cases statement with
        | none => exact Triple.pure fun _ hs => hs
        | some i => exact Triple.bind (ended i _) fun _ => Triple.pure fun _ hs => hs
    | some c =>
        refine Triple.bind (closed c _) fun _ => ?_
        cases statement with
        | none => exact Triple.pure fun _ hs => hs
        | some i => exact Triple.bind (ended i _) fun _ => Triple.pure fun _ hs => hs
  exact fun s hs => ⟨Driver.release_spent cursor s, kept s hs⟩

theorem failCursor (cursor : ResultCursor τ) (f : Failure) :
    Triple P (d.failCursor cursor f) fun r s =>
      r = (.error (.ofFailure f), cursor.spent) ∧ P s := by
  refine Triple.bind (Keeps.debug h.log _) fun _ => ?_
  refine Triple.bind (h.release cursor) fun after => Triple.pure fun s hs => ?_
  exact ⟨by rw [hs.1], hs.2⟩

theorem seek (statement : Option StatementId) (current : Option CursorId) (switched : Bool) :
    Triple P (d.seek statement current switched) fun _ => P := by
  intro s hs
  have next (c : CursorId) := (h.call (.next c) rfl).run
  have closed (c : CursorId) := (h.call (.closeCursor c) rfl).run
  have more (i : StatementId) := (h.call (.moreResults i) rfl).run
  have opened (i : StatementId) :=
    (Keeps.openCursor h.count fun k => h.call (.resultCursor i k) rfl).run
  fun_induction d.seek statement current switched s with
  | case1 switched s c s' hn => exact (next c).of_run hs hn
  | case2 switched s c s' hn s'' a hc ih => exact ih ((closed c).of_run ((next c).of_run hs hn) hc)
  | case3 switched s c s' hn f s'' hc => exact (closed c).of_run ((next c).of_run hs hn) hc
  | case4 switched s c f s' hn => exact (next c).of_run hs hn
  | case5 switched s i hi s' hm c s'' ho ih =>
      exact ih ((opened i).of_run ((more i).of_run hs hm) ho)
  | case6 switched s i hi s' hm s'' ho ih => exact ih ((opened i).of_run ((more i).of_run hs hm) ho)
  | case7 switched s i hi s' hm f s'' ho => exact (opened i).of_run ((more i).of_run hs hm) ho
  | case8 switched s i hi s' hm => exact (more i).of_run hs hm
  | case9 switched s i hi f s' hm => exact (more i).of_run hs hm
  | case10 switched s hi => exact hs

variable {i : StatementId} {slots : List OutSlot} {mapper : OutMapper τ} {result : Except Error τ}
  {cursor : ResultCursor τ}

theorem describeRow {c : CursorId} (hi : cursor.On i) (hc : cursor.current = some c)
    (hslots : cursor.slots = slots) (hh : cursor.handler = .armed mapper) :
    Triple P (d.describeRow cursor) fun r s =>
      r.2.Attends i slots mapper result ∧ r.2.handler = .armed mapper ∧ P s := by
  cases hs : cursor.stale with
  | false =>
      rw [Driver.describeRow_known fun ht => absurd (hs.symm.trans ht) nofun]
      exact Triple.pure fun s hs => ⟨⟨.inr hi, hslots, .inl hh⟩, hh, hs⟩
  | true =>
      rw [Driver.describeRow_stale hs hc]
      refine Triple.bind (h.call (.columns c) rfl).run fun r => ?_
      cases r with
      | ok columns =>
          exact Triple.pure fun s hs => ⟨⟨.inr (hi.describe columns), hslots, .inl hh⟩, hh, hs⟩
      | error f =>
          refine Triple.weaken (h.failCursor cursor f) fun r s hs => ?_
          rw [hs.1]
          exact ⟨⟨.inl (ResultCursor.spent_spent _), hslots, .inl hh⟩, hh, hs.2⟩

variable (hserve : Triple P (d.readOut i (mapper slots)).run fun r s => r = result ∧ P s)
include hserve

theorem finish (hi : cursor.On i) (hslots : cursor.slots = slots)
    (hh : cursor.handler = .armed mapper) :
    Triple P (d.finish cursor) fun r s => r.1 = result.map (fun _ => none) ∧
      r.2.Attends i slots mapper result ∧ P s := by
  have fired : Triple P (d.fireHandler cursor) fun r s => (r.1 = result.map (fun _ => ()) ∧
      r.2 = { cursor with handler := .fired result.toOption }) ∧ P s := by
    rw [Driver.fireHandler_armed hi hh, hslots]
    refine Triple.bind hserve fun r => ?_
    refine Triple.assuming fun hr => ?_
    rw [← hr]
    cases r with
    | ok value => exact Triple.pure fun s hs => ⟨⟨rfl, rfl⟩, hs⟩
    | error e => exact Triple.pure fun s hs => ⟨⟨rfl, rfl⟩, hs⟩
  refine Triple.bind fired fun r => ?_
  obtain ⟨outcome, served⟩ := r
  refine Triple.assuming fun hr => ?_
  obtain ⟨rfl, rfl⟩ := hr
  refine Triple.bind (h.release _) fun after => Triple.pure fun s hs => ?_
  rw [hs.1]
  have hspent := ResultCursor.spent_spent { cursor with handler := .fired result.toOption }
  refine ⟨?_, ⟨.inl hspent, hslots, .inr ⟨rfl, hspent⟩⟩, hs.2⟩
  cases result <;> rfl

/-- The handler has its turn in at most one move, and its result is that of the move. -/
theorem nextRow (ha : cursor.Attends i slots mapper result) :
    Triple P (d.nextRow cursor) fun r s =>
      (cursor.handler = .armed mapper → r.2.handler = .armed mapper ∨
        r.1 = result.map fun _ => none) ∧ r.2.Attends i slots mapper result ∧ P s := by
  obtain hspent | hi := ha.sound
  · rw [Driver.nextRow_of_closed hspent.closed]
    exact Triple.pure fun s hs => ⟨.inl, ha, hs⟩
  · have hh : cursor.handler = .armed mapper := ha.handler.resolve_right fun hfired =>
      absurd (hfired.2.closed.symm.trans hi.closed) nofun
    rw [Driver.nextRow_on hi]
    refine Triple.bind (Driver.sought (h.seek (some i) cursor.current cursor.stale))
      fun sought => Triple.assuming fun hstale => ?_
    cases sought with
    | row c stale =>
        have described : Triple P (d.describeRow { cursor with current := some c, stale })
            fun r s => r.2.Attends i slots mapper result ∧ r.2.handler = .armed mapper ∧ P s :=
          h.describeRow (hi.moved (hstale c stale rfl)) rfl ha.slots hh
        exact Triple.weaken described fun r s hs => ⟨fun _ => .inl hs.2.1, hs.1, hs.2.2⟩
    | exhausted =>
        refine Triple.weaken (h.finish hserve (hi.held none) ha.slots hh) fun r s hs => ?_
        exact ⟨fun _ => .inr hs.1, hs.2⟩
    | failed f held =>
        refine Triple.weaken (h.failCursor _ f) fun r s hs => ?_
        rw [hs.1]
        exact ⟨fun _ => .inl hh, ⟨.inl (ResultCursor.spent_spent _), ha.slots, .inl hh⟩, hs.2⟩

/-- Where the handler has had its turn and failed, the turn of the walk has failed with that. -/
theorem takeTurn (turn : Turn α) (ha : cursor.Attends i slots mapper result) :
    Triple P (d.takeTurn turn cursor) fun r s =>
      (cursor.handler = .armed mapper → r.2.handler = .armed mapper ∨
        ∀ e, result = .error e → r.1 = .failed e) ∧ r.2.Attends i slots mapper result ∧ P s := by
  intro s hs
  obtain ⟨hhandler, ha', hs'⟩ := h.nextRow hserve ha s hs
  unfold Driver.takeTurn
  generalize hn : d.nextRow cursor s = moved at hhandler ha' hs'
  obtain ⟨⟨row, cursor'⟩, s'⟩ := moved
  dsimp only at hhandler ha' hs' ⊢
  rcases row with e | _ | current
  · refine ⟨fun hh => (hhandler hh).imp_right fun hr e' he => ?_, ha', hs'⟩
    rw [he] at hr
    cases hr
    rfl
  · refine ⟨fun hh => (hhandler hh).imp_right fun hr e' he => ?_, ha', hs'⟩
    rw [he] at hr
    cases hr
  · have hkept (hh : cursor.handler = .armed mapper) : cursor'.handler = .armed mapper := by
      refine (hhandler hh).resolve_right fun hr => ?_
      cases result <;> cases hr
    cases turn with
    | next reading =>
        exact ⟨fun hh => .inl (hkept hh), ha', (h.readRow current.cursor _).run s' hs'⟩
    | map mapper' =>
        have hread := (h.readRow current.cursor (mapper' current.row)).run s' hs'
        unfold Driver.useRow
        dsimp only
        generalize (d.readRow current.cursor (mapper' current.row)).run s' = read at hread
        obtain ⟨r, s''⟩ := read
        cases r with
        | ok a => exact ⟨fun hh => .inl (hkept hh), ha', hread⟩
        | error e =>
            obtain ⟨hspent, hs3⟩ := h.release cursor' s'' hread
            dsimp only
            generalize d.release cursor' s'' = released at hspent hs3
            obtain ⟨after, s3⟩ := released
            obtain rfl : after = cursor'.spent := hspent
            have hdone := ResultCursor.spent_spent cursor'
            refine ⟨fun hh => .inl (hkept hh), ⟨.inl hdone, ha'.slots, ?_⟩, hs3⟩
            exact ha'.handler.imp_right fun hfired => ⟨hfired.1, hdone⟩

theorem takeTurns (turns : List (Turn α)) (ha : cursor.Attends i slots mapper result) :
    Triple P (fun s => d.takeTurns cursor s turns) fun r s =>
      (cursor.handler = .armed mapper → r.2.handler = .armed mapper ∨
        ∀ e, result = .error e → .failed e ∈ r.1) ∧ r.2.Attends i slots mapper result ∧ P s := by
  induction turns generalizing cursor with
  | nil => exact fun s hs => ⟨.inl, ha, hs⟩
  | cons turn turns ih =>
      intro s hs
      obtain ⟨hhandler, ha', hs'⟩ := h.takeTurn hserve turn ha s hs
      have hrest := ih ha' _ hs'
      simp only [Driver.takeTurns]
      generalize d.takeTurn turn cursor s = taken at hhandler ha' hs' hrest
      obtain ⟨⟨given, cursor'⟩, s'⟩ := taken
      dsimp only at hhandler hrest ⊢
      refine ⟨fun hh => ?_, hrest.2⟩
      rcases hhandler hh with harmed | hfailed
      · exact (hrest.1 harmed).imp_right fun hmem e he => List.mem_cons_of_mem _ (hmem e he)
      · refine .inr fun e he => ?_
        rw [hfailed e he]
        exact List.mem_cons_self

end Unfetched

end SqlGateway
