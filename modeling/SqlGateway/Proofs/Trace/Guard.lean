import SqlGateway.Proofs.Act.Run
import SqlGateway.Proofs.Walk.Passage

/-!
# The life of a guard

A guard is configured and run any number of times and in any order, and then it is given up. Of all
that is asked of it, what comes up to the first run is executed and the rest is refused, whatever
the outcomes. The statement is handed on after a run that succeeded, and otherwise closed once.
-/

namespace SqlGateway

variable {σ α : Type} {d : Driver σ}

namespace StatementGuard

/-! ## Uses -/

/-- What is done with a guard while it is held. -/
inductive Use (σ α : Type) where
  | configure (action : StatementId → Act σ Error α)
  | run (action : StatementId → Act σ Error α)

namespace Use

def action : Use σ α → StatementId → Act σ Error α
  | .configure action | .run action => action

def runs : Use σ α → Bool
  | .configure _ => false
  | .run _ => true

/-- What is answered once the statement was run and has come to a phase. -/
def refusal (phase : StatementPhase) : Use σ α → Error
  | .configure _ => .execution (.notConfigurable phase)
  | .run _ => .execution (.notExecutable phase)

end Use

def use (guard : StatementGuard) : Use σ α → Plain σ (Except Error α × StatementGuard)
  | .configure action => do return (← (guard.configure action).run, guard)
  | .run action => guard.run action

def useAll (guard : StatementGuard) :
    List (Use σ α) → Plain σ (List (Except Error α) × StatementGuard)
  | [] => return ([], guard)
  | u :: uses => do
    let (answer, guard) ← guard.use u
    let (answers, guard) ← guard.useAll uses
    return (answer :: answers, guard)

/-! ## Up to the first run -/

/-- The uses up to the first that runs the statement, that one included. -/
def admitted (uses : List (Use σ α)) : List (Use σ α) :=
  uses.take (uses.findIdx Use.runs + 1)

/-- The uses after that. -/
def refused (uses : List (Use σ α)) : List (Use σ α) :=
  uses.drop (uses.findIdx Use.runs + 1)

section

variable {u : Use σ α} (uses : List (Use σ α))

theorem findIdx_cons_of_runs (h : u.runs = true) : (u :: uses).findIdx Use.runs = 0 := by
  rw [List.findIdx_cons, h, cond_true]

theorem findIdx_cons (h : u.runs = false) :
    (u :: uses).findIdx Use.runs = uses.findIdx Use.runs + 1 := by
  rw [List.findIdx_cons, h, cond_false]

theorem admitted_cons_of_runs (h : u.runs = true) : admitted (u :: uses) = [u] := by
  rw [admitted, findIdx_cons_of_runs uses h]
  rfl

theorem refused_cons_of_runs (h : u.runs = true) : refused (u :: uses) = uses := by
  rw [refused, findIdx_cons_of_runs uses h]
  rfl

theorem admitted_cons (h : u.runs = false) : admitted (u :: uses) = u :: admitted uses := by
  rw [admitted, findIdx_cons uses h]
  rfl

theorem refused_cons (h : u.runs = false) : refused (u :: uses) = refused uses := by
  rw [refused, findIdx_cons uses h]
  rfl

end

/-- The phase that a statement comes to by the outcome of its run, if it was run. -/
def phaseAfter : Option (Except Error α) → StatementPhase
  | none => .prepared
  | some (.ok _) => .succeeded
  | some (.error _) => .failed

theorem use_prepared (i : StatementId) (u : Use σ α) {s s' : Session σ} {r : Except Error α}
    (h : (u.action i).run s = (r, s')) :
    use ⟨i, .prepared⟩ u s =
      ((r, ⟨i, if u.runs then phaseAfter (some r) else .prepared⟩), s') := by
  cases u with
  | configure action =>
      change (action i).run s = _ at h
      exact bind_of_run h
  | run action =>
      change (action i).run s = _ at h
      rw [use, run, if_pos rfl, bind_of_run h]
      cases r <;> rfl

theorem use_refused {guard : StatementGuard} (h : guard.phase ≠ .prepared) (u : Use σ α)
    (s : Session σ) : guard.use u s = ((.error (u.refusal guard.phase), guard), s) := by
  cases u with
  | configure action =>
      rw [use, configure, if_neg h]
      rfl
  | run action =>
      rw [use, run, if_neg h]
      rfl

theorem useAll_cons {guard guard' guard'' : StatementGuard} {u : Use σ α} {uses : List (Use σ α)}
    {s s' s'' : Session σ} {r : Except Error α} {answers : List (Except Error α)}
    (h : guard.use u s = ((r, guard'), s'))
    (hrest : guard'.useAll uses s' = ((answers, guard''), s'')) :
    guard.useAll (u :: uses) s = ((r :: answers, guard''), s'') := by
  unfold useAll
  rw [bind_of_run h]
  dsimp only
  rw [bind_of_run hrest]
  rfl

theorem useAll_refused {guard : StatementGuard} (h : guard.phase ≠ .prepared)
    (uses : List (Use σ α)) (s : Session σ) :
    guard.useAll uses s = ((uses.map fun u => .error (u.refusal guard.phase), guard), s) := by
  induction uses with
  | nil => rfl
  | cons u uses ih => exact useAll_cons (use_refused h u s) ih

theorem useAll_prepared (i : StatementId) (uses : List (Use σ α)) (s : Session σ) :
    ∃ outcomes s' phase,
      ((admitted uses).mapM fun u : Use σ α => (u.action i).run) s = (outcomes, s') ∧
      phase = phaseAfter outcomes[uses.findIdx Use.runs]? ∧
      useAll ⟨i, .prepared⟩ uses s =
        ((outcomes ++ (refused uses).map fun u => .error (u.refusal phase), ⟨i, phase⟩), s') := by
  induction uses generalizing s with
  | nil => exact ⟨[], s, .prepared, rfl, rfl, rfl⟩
  | cons u uses ih =>
      generalize hr : (u.action i).run s = result
      obtain ⟨r, s₁⟩ := result
      have huse := use_prepared i u hr
      cases hu : u.runs with
      | true =>
          rw [hu, if_pos rfl] at huse
          have hrun : phaseAfter (some r) ≠ .prepared := by cases r <;> nofun
          refine ⟨[r], s₁, phaseAfter (some r), ?_, ?_, ?_⟩
          · rw [admitted_cons_of_runs uses hu, List.mapM_cons, bind_of_run hr]
            rfl
          · rw [findIdx_cons_of_runs uses hu]
            rfl
          · rw [refused_cons_of_runs uses hu]
            exact useAll_cons huse (useAll_refused hrun uses s₁)
      | false =>
          rw [hu] at huse
          obtain ⟨outcomes, s₂, phase, hmap, hphase, hall⟩ := ih s₁
          refine ⟨r :: outcomes, s₂, phase, ?_, ?_, ?_⟩
          · rw [admitted_cons uses hu, List.mapM_cons, bind_of_run hr, bind_of_run hmap]
            rfl
          · rw [findIdx_cons uses hu, List.getElem?_cons_succ, hphase]
          · rw [refused_cons uses hu]
            exact useAll_cons huse hall

end StatementGuard

/-! ## Ends -/

/-- The ways to give up a guard. -/
inductive GuardEnding where
  | handOn
  | close
  | drop

/-- Gives up a guard. The statement is returned if it is handed on. -/
def Driver.endGuard (d : Driver σ) (guard : StatementGuard) :
    GuardEnding → Act σ Error (Option StatementId)
  | .handOn => some <$> d.releaseGuard guard
  | .close => (fun _ => none) <$> d.closeGuard guard
  | .drop => (fun _ => none) <$> ExceptT.lift (d.dropGuard guard)

/-- What is answered where the statement is closed, which may fail. -/
def GuardEnding.answer (phase : StatementPhase) (closed : Except Failure Unit) :
    GuardEnding → Except Error (Option StatementId)
  | .handOn => .error (.execution (.noResults phase))
  | .close => (closed.mapError Error.ofFailure).map fun _ => none
  | .drop => .ok none

theorem dropGuard_passed (guard : StatementGuard) (s : Session (Traced σ)) :
    ∃ closed s', d.traced.dropGuard guard s = ((), s') ∧
      Passed s s' [.call (.closeStatement guard.statement) closed] := by
  generalize hclose : (d.traced.perform (.closeStatement guard.statement)).run s = result
  obtain ⟨closed, s'⟩ := result
  refine ⟨closed, (d.traced.dropGuard guard s).2, rfl, orWarn_passed _ ?_⟩
  rw [hclose]
  exact .call hclose

theorem endGuard_closes {guard : StatementGuard} {ending : GuardEnding}
    (h : ¬(ending = .handOn ∧ guard.phase = .succeeded)) (s : Session (Traced σ)) :
    ∃ closed s', (d.traced.endGuard guard ending).run s =
        (ending.answer guard.phase closed, s') ∧
      Passed s s' [.call (.closeStatement guard.statement) closed] := by
  cases ending with
  | handOn =>
      obtain ⟨closed, s', hdrop, ht⟩ := dropGuard_passed (d := d) guard s
      refine ⟨closed, s', ?_, ht⟩
      have hphase : guard.phase ≠ .succeeded := fun hp => h ⟨rfl, hp⟩
      rw [Driver.endGuard, run_map, Driver.releaseGuard, if_neg hphase,
        run_bind_of_ok (run_lift hdrop)]
      rfl
  | close =>
      generalize hclose : (d.traced.perform (.closeStatement guard.statement)).run s = result
      obtain ⟨closed, s'⟩ := result
      refine ⟨closed, s', ?_, .call hclose⟩
      rw [Driver.endGuard, run_map, Driver.closeGuard, surfaced_run hclose]
      rfl
  | drop =>
      obtain ⟨closed, s', hdrop, ht⟩ := dropGuard_passed (d := d) guard s
      refine ⟨closed, s', ?_, ht⟩
      rw [Driver.endGuard, run_map, run_lift hdrop]
      rfl

/-! ## Lives -/

open StatementGuard

/-- Of a guard that is used in any way and then given up, the uses up to the first run are executed,
one after the other, and none after that. The phase is that of the run. Once it is run, each further
use is refused and leaves all as it is. The statement is handed on, without a call to the driver,
exactly if the run succeeded and this is asked for; otherwise it is closed, by one call. -/
theorem guard_runs_once (d : Driver σ) (i : StatementId) (uses : List (Use (Traced σ) α))
    (s : Session (Traced σ)) :
    ∃ outcomes s₁ phase,
      ((admitted uses).mapM fun u : Use (Traced σ) α => (u.action i).run) s = (outcomes, s₁) ∧
      phase = phaseAfter outcomes[uses.findIdx Use.runs]? ∧
      useAll ⟨i, .prepared⟩ uses s =
        ((outcomes ++ (refused uses).map fun u => .error (u.refusal phase), ⟨i, phase⟩), s₁) ∧
      (phase ≠ .prepared → ∀ u : Use (Traced σ) α,
        use ⟨i, phase⟩ u s₁ = ((.error (u.refusal phase), ⟨i, phase⟩), s₁)) ∧
      ∀ ending : GuardEnding,
        (ending = .handOn ∧ phase = .succeeded →
          (d.traced.endGuard ⟨i, phase⟩ ending).run s₁ = (.ok (some i), s₁)) ∧
        (¬(ending = .handOn ∧ phase = .succeeded) → ∃ closed s₂,
          (d.traced.endGuard ⟨i, phase⟩ ending).run s₁ = (ending.answer phase closed, s₂) ∧
            Passed s₁ s₂ [.call (.closeStatement i) closed]) := by
  obtain ⟨outcomes, s₁, phase, hmap, hphase, hall⟩ := useAll_prepared i uses s
  refine ⟨outcomes, s₁, phase, hmap, hphase, hall, fun hrun u => use_refused hrun u s₁,
    fun ending => ⟨?_, fun h => endGuard_closes h s₁⟩⟩
  rintro ⟨rfl, rfl⟩
  rfl

end SqlGateway
