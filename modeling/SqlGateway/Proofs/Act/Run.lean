import SqlGateway.Execution.Query
import SqlGateway.Proofs.Act.Triple

/-!
# Runs taken apart

What a run that has succeeded was made of.
-/

namespace SqlGateway

variable {σ τ ε α β : Type} {d : Driver σ}

/-! ## Acts that succeed -/

theorem exists_of_run_bind {act : Act σ ε α} {f : α → Act σ ε β} {s s' : Session σ} {b : β}
    (h : (act >>= f).run s = (.ok b, s')) :
    ∃ a s₁, act.run s = (.ok a, s₁) ∧ (f a).run s₁ = (.ok b, s') := by
  generalize hact : act.run s = result
  obtain ⟨r, s₁⟩ := result
  cases r with
  | ok a => exact ⟨a, s₁, rfl, (run_bind_of_ok hact).symm.trans h⟩
  | error e =>
      rw [run_bind_of_error hact] at h
      cases h

theorem run_of_surfaced {act : Act σ Failure α} {s s' : Session σ} {a : α}
    (h : (surfaced act).run s = (.ok a, s')) : act.run s = (.ok a, s') := by
  change ((act.run s).1.mapError Error.ofFailure, (act.run s).2) = _ at h
  generalize act.run s = result at h
  obtain ⟨r, s₁⟩ := result
  cases r <;> cases h
  rfl

theorem surfaced_run {act : Act σ Failure α} {s s' : Session σ} {r : Except Failure α}
    (h : act.run s = (r, s')) : (surfaced act).run s = (r.mapError Error.ofFailure, s') := by
  change ((act.run s).1.mapError Error.ofFailure, (act.run s).2) = _
  rw [h]

theorem surfaced_bind (act : Act σ Failure α) (f : α → Act σ Failure β) :
    surfaced (act >>= f) = surfaced act >>= fun a => surfaced (f a) := by
  funext s
  change (surfaced (act >>= f)).run s = (surfaced act >>= fun a => surfaced (f a)).run s
  generalize h : act.run s = result
  obtain ⟨r, s₁⟩ := result
  cases r with
  | ok a =>
      have hrun : (act >>= f).run s = ((f a).run s₁) := run_bind_of_ok h
      rw [surfaced_run hrun, run_bind_of_ok (surfaced_run h)]
      exact (surfaced_run rfl).symm
  | error e =>
      have hrun : (act >>= f).run s = (.error e, s₁) := run_bind_of_error h
      rw [surfaced_run hrun]
      exact (run_bind_of_error (surfaced_run h)).symm

theorem run_of_lift {act : Plain σ α} {s s' : Session σ} {a : α}
    (h : (ExceptT.lift act : Act σ ε α).run s = (.ok a, s')) : act s = (a, s') := by
  change ((Except.ok (act s).1, (act s).2) : Except ε α × Session σ) = _ at h
  generalize act s = result at h
  obtain ⟨a', s₁⟩ := result
  cases h
  rfl

theorem run_of_ofExcept {r : Except ε α} {s s' : Session σ} {a : α}
    (h : (MonadExcept.ofExcept r : Act σ ε α).run s = (.ok a, s')) : r = .ok a ∧ s = s' := by
  cases r <;> cases h
  exact ⟨rfl, rfl⟩

theorem run_map (f : α → β) (act : Act σ ε α) (s : Session σ) :
    (f <$> act).run s = ((act.run s).1.map f, (act.run s).2) := by
  rw [map_eq_pure_bind]
  generalize h : act.run s = result
  obtain ⟨r, s₁⟩ := result
  cases r with
  | ok a => exact run_bind_of_ok h
  | error e => exact run_bind_of_error h

/-! ## Opening a set of rows -/

theorem openCursor_run {i : StatementId} {s s' : Session σ} {r : Except Failure (Option CursorId)}
    (h : (d.openCursor i).run s = (r, s')) :
    ∃ answer s₁, (d.perform (.resultCursor i ⟨s.cursors + 1⟩)).run s = (answer, s₁) ∧
      ((∃ f, answer = .error f ∧ r = .error f ∧ s' = s₁) ∨
        (answer = .ok false ∧ r = .ok none ∧ s' = s₁) ∨
        (answer = .ok true ∧ r = .ok (some ⟨s.cursors + 1⟩) ∧
          s' = { s₁ with cursors := s.cursors + 1 })) := by
  change (d.perform (.resultCursor i ⟨s.cursors + 1⟩) >>= _).run s = _ at h
  generalize ho : (d.perform (.resultCursor i ⟨s.cursors + 1⟩)).run s = opened
  obtain ⟨answer, s₁⟩ := opened
  refine ⟨answer, s₁, rfl, ?_⟩
  rcases answer with f | _ | _
  · rw [run_bind_of_error ho] at h
    cases h
    exact .inl ⟨f, rfl, rfl, rfl⟩
  · rw [run_bind_of_ok ho] at h
    cases h
    exact .inr (.inl ⟨rfl, rfl, rfl⟩)
  · rw [run_bind_of_ok ho] at h
    cases h
    exact .inr (.inr ⟨rfl, rfl, rfl⟩)

theorem run_openCursor {i : StatementId} {s s₁ : Session σ} {opened : Bool}
    (h : (d.perform (.resultCursor i ⟨s.cursors + 1⟩)).run s = (.ok opened, s₁)) :
    (d.openCursor i).run s = match opened with
      | true => (.ok (some ⟨s.cursors + 1⟩), { s₁ with cursors := s.cursors + 1 })
      | false => (.ok none, s₁) := by
  change (d.perform (.resultCursor i ⟨s.cursors + 1⟩) >>= _).run s = _
  rw [run_bind_of_ok h]
  cases opened <;> rfl

/-! ## Statements under guard -/

theorem run_of_dropOnError {guard : StatementGuard} {act : Act σ Error α} {s s' : Session σ} {a : α}
    (h : (d.dropOnError guard act).run s = (.ok a, s')) : act.run s = (.ok a, s') := by
  unfold Driver.dropOnError at h
  obtain ⟨r, s₁, hr, h⟩ := exists_of_run_bind h
  rw [run_of_lift hr]
  cases r with
  | ok a' =>
      cases h
      rfl
  | error e =>
      obtain ⟨_, s₂, -, h⟩ := exists_of_run_bind h
      cases h

theorem dropOnError_run {guard : StatementGuard} {act : Act σ Error α} {s s' : Session σ} {a : α}
    (h : act.run s = (.ok a, s')) : (d.dropOnError guard act).run s = (.ok a, s') := by
  unfold Driver.dropOnError
  rw [run_bind_of_ok (run_lift h)]
  rfl

theorem guard_run_iff {guard guard' : StatementGuard} {action : StatementId → Act σ Error α}
    {s s' : Session σ} {a : α} :
    guard.run action s = ((.ok a, guard'), s') ↔
      guard.phase = .prepared ∧ (action guard.statement).run s = (.ok a, s') ∧
        guard' = { guard with phase := .succeeded } := by
  unfold StatementGuard.run
  by_cases hp : guard.phase = .prepared
  · rw [if_pos hp]
    generalize hr : (action guard.statement).run s = result
    obtain ⟨r, s₁⟩ := result
    rw [bind_of_run hr]
    cases r with
    | ok a' =>
        constructor
        · intro h
          cases h
          exact ⟨hp, rfl, rfl⟩
        · intro ⟨_, h, hguard⟩
          cases h
          rw [hguard]
          rfl
    | error e =>
        constructor
        · intro h
          cases h
        · intro ⟨_, h, _⟩
          cases h
  · rw [if_neg hp]
    constructor
    · intro h
      cases h
    · intro ⟨h, _⟩
      exact absurd h hp

theorem guardStatement_run {sql : String} {kind : StatementKind} {keys : GeneratedKeys}
    {s s₁ s₂ : Session σ} {r : Except Failure StatementId} (hask : d.ask .isClosed s = (false, s₁))
    (hprepare : (d.prepare sql kind keys).run s₁ = (r, s₂)) :
    (d.guardStatement sql kind keys).run s =
      ((r.mapError Error.ofFailure).map (⟨·, .prepared⟩), s₂) := by
  have hprepare := surfaced_run hprepare
  unfold Driver.guardStatement
  rw [run_bind_of_ok (run_lift hask)]
  cases r with
  | ok i => exact run_bind_of_ok hprepare
  | error f => exact run_bind_of_error hprepare

section

variable {sql : String} {kind : StatementKind} {keys : GeneratedKeys}
  {configure : StatementId → Act σ Error Unit} {action : StatementId → Act σ Error α}
  {i : StatementId} {s s₁ s₂ s₃ : Session σ}

theorem runStatement_ok {a : α}
    (hguard : (d.guardStatement sql kind keys).run s = (.ok ⟨i, .prepared⟩, s₁))
    (hconfigure : (configure i).run s₁ = (.ok (), s₂))
    (haction : (action i).run s₂ = (.ok a, s₃)) :
    (d.runStatement sql kind keys configure action).run s = (.ok (a, ⟨i, .succeeded⟩), s₃) := by
  have hconfigured : (StatementGuard.configure ⟨i, .prepared⟩ configure).run s₁ = (.ok (), s₂) :=
    hconfigure
  unfold Driver.runStatement
  rw [run_bind_of_ok hguard, run_bind_of_ok (dropOnError_run hconfigured),
    run_bind_of_ok (run_lift (guard_run_iff.mpr ⟨rfl, haction, rfl⟩))]
  exact run_bind_of_ok (dropOnError_run rfl)

/-- The statement is given up where its action fails. -/
theorem runStatement_error {e : Error}
    (hguard : (d.guardStatement sql kind keys).run s = (.ok ⟨i, .prepared⟩, s₁))
    (hconfigure : (configure i).run s₁ = (.ok (), s₂))
    (haction : (action i).run s₂ = (.error e, s₃)) :
    (d.runStatement sql kind keys configure action).run s =
      (.error e, (d.dropGuard ⟨i, .failed⟩ s₃).2) := by
  have hconfigured : (StatementGuard.configure ⟨i, .prepared⟩ configure).run s₁ = (.ok (), s₂) :=
    hconfigure
  have hrun : StatementGuard.run ⟨i, .prepared⟩ action s₂ = ((.error e, ⟨i, .failed⟩), s₃) := by
    unfold StatementGuard.run
    rw [if_pos rfl, bind_of_run haction]
    rfl
  unfold Driver.runStatement
  rw [run_bind_of_ok hguard, run_bind_of_ok (dropOnError_run hconfigured),
    run_bind_of_ok (run_lift hrun)]
  exact run_bind_of_error rfl

end

theorem releaseGuard_run {guard : StatementGuard} {s s' : Session σ} {i : StatementId}
    (h : (d.releaseGuard guard).run s = (.ok i, s')) : i = guard.statement ∧ s' = s := by
  unfold Driver.releaseGuard at h
  split at h
  · cases h
    exact ⟨rfl, rfl⟩
  · obtain ⟨_, s₁, -, h⟩ := exists_of_run_bind h
    cases h

/-- A statement whose work has two parts has been through the first of them when it comes to the
second. -/
theorem exists_of_runStatement {sql : String} {kind : StatementKind} {keys : GeneratedKeys}
    {configure : StatementId → Act σ Error Unit} {first : StatementId → Act σ Error α}
    {second : StatementId → α → Act σ Error β} {s s' : Session σ} {b : β} {guard : StatementGuard}
    (h : (d.runStatement sql kind keys configure fun i => first i >>= second i).run s =
      (.ok (b, guard), s')) :
    ∃ a s₁, (d.runStatement sql kind keys configure first).run s = (.ok (a, guard), s₁) ∧
      (second guard.statement a).run s₁ = (.ok b, s') := by
  unfold Driver.runStatement at h ⊢
  obtain ⟨guard₀, s₁, hguard, h⟩ := exists_of_run_bind h
  obtain ⟨_, s₂, hconfigure, h⟩ := exists_of_run_bind h
  obtain ⟨⟨outcome, guard₁⟩, s₃, hrun, h⟩ := exists_of_run_bind h
  obtain ⟨b', s₄, hdrop, h⟩ := exists_of_run_bind h
  obtain ⟨rfl, rfl⟩ := run_of_ofExcept (run_of_dropOnError hdrop)
  cases h
  obtain ⟨hp, haction, rfl⟩ := guard_run_iff.mp (run_of_lift hrun)
  obtain ⟨a, s₅, hfirst, hsecond⟩ := exists_of_run_bind haction
  have hkept : (d.dropOnError { guard₀ with phase := .succeeded }
      (MonadExcept.ofExcept (.ok a : Except Error α))).run s₅ = (.ok a, s₅) := dropOnError_run rfl
  refine ⟨a, s₅, ?_, hsecond⟩
  rw [run_bind_of_ok hguard, run_bind_of_ok hconfigure,
    run_bind_of_ok (run_lift (guard_run_iff.mpr ⟨hp, hfirst, rfl⟩))]
  exact run_bind_of_ok hkept

end SqlGateway
