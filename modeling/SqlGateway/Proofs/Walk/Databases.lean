import SqlGateway.Database.Scripted.Driver
import SqlGateway.Proofs.Memory.Calls
import SqlGateway.Proofs.Walk.View

/-!
# Databases with their results in view

Both databases do with results what is documented: the scripted one in every profile and whatever
calls are planned to fail, and the one in memory.
-/

namespace SqlGateway.Database

variable {ρ κ : Type}

theorem Results.advance_inv (r : Results ρ κ) :
    (r.advance.1 = true ∧
        ∃ result, r.pending = result :: r.advance.2.pending ∧ r.advance.2.current = some result) ∨
      (r.advance.1 = false ∧ r.pending = []) := by
  unfold advance
  split
  · rename_i result pending hp
    exact .inl ⟨rfl, result, hp, rfl⟩
  · rename_i hp
    exact .inr ⟨rfl, hp⟩

/-! ## Scripted databases -/

namespace Scripted

theorem statement_putStatement (db : Scripted) (i j : StatementId)
    (statement : ScriptedStatement) :
    (db.putStatement i statement).statement j = if i = j then statement else db.statement j := by
  unfold Scripted.statement putStatement
  split
  · rename_i h
    subst h
    rw [Registry.get?_put]
    rfl
  · rename_i h
    rw [Registry.get?_put_of_ne h]

theorem cursor_putCursor (db : Scripted) (c k : CursorId) (cursor : CursorState Cell) :
    (db.putCursor c cursor).cursor k = if c = k then cursor else db.cursor k := by
  unfold Scripted.cursor putCursor
  split
  · rename_i h
    subst h
    rw [Registry.get?_put]
    rfl
  · rename_i h
    rw [Registry.get?_put_of_ne h]

/-- A call that succeeds has its effect once it is on record. -/
theorem effect_of_attempt {c : Call} {db db' : Scripted} {a : c.Answer}
    (h : attempt c db = (.ok a, db')) :
    ∃ turns requests, ({ db with turns, requests } : Scripted).effect c = (.ok a, db') := by
  unfold attempt at h
  dsimp only at h
  split at h
  · cases h
  · exact ⟨_, _, h⟩

theorem effect_of_attemptKnown {c : Call} {db db' : Scripted} {a : c.Answer}
    (h : attemptKnown c db = (.ok a, db')) :
    ∃ turns requests, ({ db with turns, requests } : Scripted).effect c = (.ok a, db') := by
  unfold attemptKnown at h
  split at h
  · cases h
  · exact effect_of_attempt h

theorem attempt_of_inert {c : Call} (hc : ∀ db : Scripted, (db.effect c).2 = db) (db : Scripted) :
    ∃ turns requests, (attempt c db).2 = { db with turns, requests } := by
  unfold attempt
  dsimp only
  split
  · exact ⟨_, _, rfl⟩
  · exact ⟨_, _, hc _⟩

theorem attemptKnown_of_inert {c : Call} (hc : ∀ db : Scripted, (db.effect c).2 = db)
    (db : Scripted) : ∃ turns requests, (attemptKnown c db).2 = { db with turns, requests } := by
  unfold attemptKnown
  split
  · exact ⟨db.turns, db.requests, rfl⟩
  · exact attempt_of_inert hc db

theorem call_of_reads {call : Call} {c : CursorId} (hw : call.WorksOn (.cursor c))
    (hn : call ≠ .next c) (db : Scripted) :
    ∃ turns requests, (driver.call call db).2 = { db with turns, requests } := by
  obtain ⟨hh, hm⟩ := hw
  cases call with
  | columns k => exact attemptKnown_of_inert (fun _ => rfl) db
  | next k =>
      cases hh
      exact absurd rfl hn
  | getObject k index => exact attemptKnown_of_inert (fun _ => rfl) db
  | getBinaryStream k index =>
      change ∃ turns requests, (Scripted.call (.getBinaryStream k index) db).2 = _
      simp only [Scripted.call]
      split
      · exact attempt_of_inert (fun _ => rfl) db
      · exact attempt_of_inert (c := .getObject k index) (fun _ => rfl) db
  | getCharacterStream k index =>
      change ∃ turns requests, (Scripted.call (.getCharacterStream k index) db).2 = _
      simp only [Scripted.call]
      split
      · exact attempt_of_inert (fun _ => rfl) db
      · exact attempt_of_inert (c := .getObject k index) (fun _ => rfl) db
  | closeCursor k => cases hm
  | _ => cases hh

/-- The set of rows that a statement is on, if its current result is one. -/
def currentSet (db : Scripted) (i : StatementId) : Option (ResultSet Cell) :=
  (db.statement i).results.current.join

/-- The results ahead. A database of the bare profile does not move on to any. -/
def resultsAhead (db : Scripted) (i : StatementId) : List (Option (ResultSet Cell)) :=
  if db.profile = .bare then [] else (db.statement i).results.pending

section

variable {db db' : Scripted} {i : StatementId} {c : CursorId}

theorem results_putResults (results : Results RowSet Cell) (j : StatementId) :
    ((db.putResults i results).statement j).results =
      if i = j then results else (db.statement j).results := by
  unfold putResults
  rw [statement_putStatement]
  split <;> rfl

variable (db) in
theorem resultsAhead_putResults {results : Results RowSet Cell}
    (h : results.pending = (db.statement i).results.pending) :
    (db.putResults i results).resultsAhead = db.resultsAhead := by
  funext j
  unfold resultsAhead
  rw [results_putResults]
  change (if db.profile = .bare then _ else _) = _
  by_cases hj : i = j
  · subst hj
    rw [if_pos rfl, h]
  · rw [if_neg hj]

theorem of_moreResults {more : Bool} (h : driver.call (.moreResults i) db = (.ok more, db')) :
    db.resultsAhead i = if more then db'.currentSet i :: db'.resultsAhead i else [] := by
  change Scripted.call (.moreResults i) db = _ at h
  by_cases hp : db.profile = .bare
  · simp only [Scripted.call, hp] at h
    cases h
    exact if_pos hp
  · have hattempt : attempt (.moreResults i) db = (.ok more, db') := by
      rw [← h]
      simp only [Scripted.call]
    obtain ⟨turns, requests, he⟩ := effect_of_attempt hattempt
    have hpending : db.resultsAhead i = (db.statement i).results.pending := if_neg hp
    have hmoved : Except.ok (db.statement i).results.advance.1 = .ok more := congrArg Prod.fst he
    obtain rfl := Except.ok.inj hmoved
    have hdb : ({ db with turns, requests } : Scripted).putResults i
        (db.statement i).results.advance.2 = db' := congrArg Prod.snd he
    have hresults : (db'.statement i).results = (db.statement i).results.advance.2 := by
      rw [← hdb]
      exact (results_putResults _ i).trans (if_pos rfl)
    have hpending' : db'.resultsAhead i = (db'.statement i).results.pending := by
      rw [← hdb]
      exact if_neg hp
    unfold currentSet
    rw [hpending, hpending', hresults]
    obtain ⟨hmoved, result, hahead, hcurrent⟩ | ⟨hmoved, hahead⟩ :=
      (db.statement i).results.advance_inv
    · rw [hmoved, hahead, hcurrent]
      rfl
    · rw [hmoved, hahead]
      rfl

theorem of_resultCursor {opened : Bool}
    (h : driver.call (.resultCursor i c) db = (.ok opened, db')) :
    (db.currentSet i).map .ofSet = (if opened then some (db'.cursor c) else none) ∧
      db'.resultsAhead = db.resultsAhead := by
  obtain ⟨turns, requests, he⟩ := effect_of_attemptKnown (c := .resultCursor i c) h
  have hset : db.currentSet i = (db.statement i).results.current.join := rfl
  simp only [effect, Scripted.openCursor] at he
  split at he
  · rename_i set hcurrent
    cases he
    refine ⟨?_, resultsAhead_putResults { db with turns, requests } rfl⟩
    have hcurrent : (db.statement i).results.current = some (some set) := hcurrent
    change _ = some (Scripted.cursor (putCursor _ c _) c)
    rw [cursor_putCursor, if_pos rfl, hset, hcurrent]
    rfl
  · rename_i hnone
    cases he
    refine ⟨?_, resultsAhead_putResults { db with turns, requests } rfl⟩
    have hnone (set : ResultSet Cell) : (db.statement i).results.current ≠ some (some set) :=
      hnone set
    rw [hset]
    rcases hcurrent : (db.statement i).results.current with _ | _ | set
    · rfl
    · rfl
    · exact absurd hcurrent (hnone set)

theorem of_next {moved : Bool} (h : driver.call (.next c) db = (.ok moved, db')) :
    (db.cursor c).next = (moved, db'.cursor c) ∧ db'.resultsAhead = db.resultsAhead := by
  obtain ⟨turns, requests, he⟩ := effect_of_attemptKnown (c := .next c) h
  cases he
  refine ⟨Prod.ext rfl ?_, rfl⟩
  change _ = Scripted.cursor (putCursor _ c _) c
  rw [cursor_putCursor, if_pos rfl]
  rfl

end

def view : ResultView driver Cell where
  current := currentSet
  pending := resultsAhead
  cursor := cursor
  moreResults := of_moreResults
  resultCursor := of_resultCursor
  next := of_next
  columns h := by
    obtain ⟨turns, requests, he⟩ := effect_of_attemptKnown (c := .columns _) h
    cases he
    rfl
  reads hw hn db := by
    obtain ⟨turns, requests, hdb⟩ := call_of_reads hw hn db
    rw [hdb]
    exact ⟨rfl, rfl⟩
  closeCursor h := by
    obtain ⟨turns, requests, he⟩ := effect_of_attemptKnown (c := .closeCursor _) h
    cases he
    rfl

/-- An execution brings the results of the script, of which those after the first are out of reach
in the bare profile. -/
theorem produced_of_execute {db db' : Scripted} {i : StatementId} {e : Execution RowSet Cell}
    {queue : List (Except Failure (Execution RowSet Cell))} {onResult : Bool}
    (hq : db.queue = .ok e :: queue)
    (h : driver.call (.execute i) db = (.ok onResult, db')) :
    view.produced db' i onResult = if db.profile = .bare then e.results.take 1 else e.results := by
  obtain ⟨turns, requests, he⟩ := effect_of_attemptKnown (c := .execute i) h
  have hrun : ({ db with turns, requests } : Scripted).execute i = (.ok onResult, db') := he
  simp only [execute, take, hq, results_putResults, if_true] at hrun
  obtain ⟨hmoved, hdb⟩ := Prod.mk.inj hrun
  obtain rfl := Except.ok.inj hmoved
  have hprofile : db'.profile = db.profile := by
    rw [← hdb]
    rfl
  have hresults : (db'.statement i).results = (Results.ofExecution e).advance.2 := by
    rw [← hdb]
    exact (results_putResults _ i).trans (if_pos rfl)
  unfold ResultView.produced
  change (if _ then db'.currentSet i :: db'.resultsAhead i else db'.resultsAhead i) = _
  unfold currentSet resultsAhead
  rw [hresults, hprofile]
  obtain ⟨count, results, out, keys⟩ := e
  by_cases hp : db.profile = .bare
  · simp only [if_pos hp]
    cases results <;> rfl
  · simp only [if_neg hp]
    cases results <;> rfl

end Scripted

/-! ## In-memory databases -/

namespace Memory

/-- The results ahead, which are sets of rows, all of them. -/
def resultsAhead (db : Memory) (i : StatementId) : List (Option (ResultSet Value)) :=
  (db.statement i).results.pending.map some

variable {db db' : Memory} {i : StatementId} {c : CursorId}

theorem resultsAhead_putStatement {statement : MemoryStatement}
    (h : statement.results.pending = (db.statement i).results.pending) :
    (db.putStatement i statement).resultsAhead = db.resultsAhead := by
  funext j
  unfold resultsAhead
  rw [statement_putStatement]
  split
  · rename_i hj
    subst hj
    rw [h]
  · rfl

theorem of_moreResults {more : Bool} (h : driver.call (.moreResults i) db = (.ok more, db')) :
    db.resultsAhead i =
      if more then (db'.statement i).results.current :: db'.resultsAhead i else [] := by
  have hmoved : Except.ok (db.statement i).results.advance.1 = .ok more := congrArg Prod.fst h
  obtain rfl := Except.ok.inj hmoved
  have hdb : db.putStatement i { db.statement i with
      results := (db.statement i).results.advance.2 } = db' := congrArg Prod.snd h
  have hresults : (db'.statement i).results = (db.statement i).results.advance.2 := by
    rw [← hdb, statement_putStatement, if_pos rfl]
  unfold resultsAhead
  rw [hresults]
  obtain ⟨hmoved, result, hahead, hcurrent⟩ | ⟨hmoved, hahead⟩ :=
    (db.statement i).results.advance_inv
  · rw [hmoved, hahead, hcurrent]
    rfl
  · rw [hmoved, hahead]
    rfl

theorem of_resultCursor {opened : Bool}
    (h : driver.call (.resultCursor i c) db = (.ok opened, db')) :
    (db.statement i).results.current.map .ofSet = (if opened then some (db'.cursor c) else none) ∧
      db'.resultsAhead = db.resultsAhead := by
  change Memory.call (.resultCursor i c) db = _ at h
  simp only [Memory.call, openCursor] at h
  split at h
  · rename_i set hcurrent
    cases h
    rw [hcurrent]
    refine ⟨?_, resultsAhead_putStatement rfl⟩
    change _ = some (Memory.cursor (putCursor _ c _) c)
    rw [cursor_putCursor, if_pos rfl]
    rfl
  · rename_i hnone
    cases h
    rw [hnone]
    exact ⟨rfl, resultsAhead_putStatement rfl⟩

theorem of_next {moved : Bool} (h : driver.call (.next c) db = (.ok moved, db')) :
    (db.cursor c).next = (moved, db'.cursor c) ∧ db'.resultsAhead = db.resultsAhead := by
  change db.next c = _ at h
  unfold next at h
  dsimp only at h
  split at h
  · cases h
  · cases h
    refine ⟨Prod.ext rfl ?_, rfl⟩
    rw [cursor_putCursor, if_pos rfl]

theorem resultsAhead_closeCursor (db : Memory) (c : CursorId) :
    (db.closeCursor c).resultsAhead = db.resultsAhead := by
  unfold closeCursor
  dsimp only
  split <;> rfl

def view : ResultView driver Value where
  current db i := (db.statement i).results.current
  pending := resultsAhead
  cursor := cursor
  moreResults := of_moreResults
  resultCursor := of_resultCursor
  next := of_next
  columns h := by
    cases h
    rfl
  reads := by
    intro call c hw hn db
    obtain ⟨hh, hm⟩ := hw
    cases call with
    | columns | getObject | getBinaryStream | getCharacterStream => exact ⟨rfl, rfl⟩
    | next k =>
        cases hh
        exact absurd rfl hn
    | closeCursor k => cases hm
    | _ => cases hh
  closeCursor h := by
    cases h
    exact resultsAhead_closeCursor _ _

theorem pending_of_run {values : List Value} {e : Execution (ResultSet Value) Value}
    (h : db.run i values = (.ok e, db')) : (db'.statement i).results.pending = e.results := by
  unfold run at h
  dsimp only at h
  split at h
  · cases h
  · split at h
    · obtain ⟨he, hdb⟩ := Prod.mk.inj h
      obtain rfl := Except.ok.inj he
      rw [← hdb, statement_putStatement, if_pos rfl]
      rfl
    · cases h

/-- An execution brings the results of the procedure. -/
theorem produced_of_execute {onResult : Bool}
    (h : driver.call (.execute i) db = (.ok onResult, db')) :
    ∃ e : Execution (ResultSet Value) Value, (db.run i (db.statement i).values).1 = .ok e ∧
      view.produced db' i onResult = e.results.map some := by
  change db.execute i = _ at h
  unfold execute at h
  generalize hr : db.run i (db.statement i).values = result at h
  obtain ⟨outcome, db₁⟩ := result
  cases outcome with
  | error f => cases h
  | ok e =>
      refine ⟨e, rfl, ?_⟩
      have hpending := pending_of_run hr
      obtain ⟨hmoved, hdb⟩ := Prod.mk.inj h
      obtain rfl := Except.ok.inj hmoved
      have hresults : (db'.statement i).results = (db₁.statement i).results.advance.2 := by
        rw [← hdb]
        exact congrArg (·.results) ((statement_putStatement _ i i _).trans (if_pos rfl))
      change (if (db₁.statement i).results.advance.1 then
        (db'.statement i).results.current :: db'.resultsAhead i else db'.resultsAhead i) = _
      unfold resultsAhead
      rw [hresults, ← hpending]
      obtain ⟨current, pending, out, keys⟩ := (db₁.statement i).results
      cases pending <;> rfl

end Memory

end SqlGateway.Database
