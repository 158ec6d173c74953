import SqlGateway.Proofs.Act.Run
import SqlGateway.Proofs.Act.Transaction

/-!
# Acts that do the same but for one failure

Of two acts one fails in a way in which the other does not, and does the same otherwise. Such a
failure goes through whatever is around the act: the statement is closed and the transaction rolled
back, and it is reported in the end.
-/

namespace SqlGateway

variable {τ ε α β : Type} {P : τ → Prop} {e : ε} {N W : Prop}

/-- From states with `P` the acts do the same, and there is `N` where they succeed, or the first
fails with `e` and there is `W`. -/
def SameUnless (P : τ → Prop) (e : ε) (N W : Prop) (act act' : ExceptT ε (StateM τ) α) : Prop :=
  ∀ s, P s → act.run s = act'.run s ∧ (∀ a, (act.run s).1 = .ok a → N) ∨
    (act.run s).1 = .error e ∧ W

namespace SameUnless

variable {act act' : ExceptT ε (StateM τ) α}

theorem of_failing (h : ∀ s, ∃ e', (act.run s).1 = .error e') : SameUnless P e N W act act := by
  intro s _
  obtain ⟨e', herror⟩ := h s
  refine .inl ⟨rfl, fun a ha => ?_⟩
  rw [herror] at ha
  cases ha

theorem same (h : N) : SameUnless P e N W act act :=
  fun _ _ => .inl ⟨rfl, fun _ _ => h⟩

/-- What is known apart from the state may be used from the start. -/
theorem assuming {p : Prop} (h : p → SameUnless P e N W act act') :
    SameUnless (fun s => p ∧ P s) e N W act act' :=
  fun s hs => h hs.1 s hs.2

/-- What comes before is the same. -/
theorem after {Q : α → τ → Prop} {E : τ → Prop} {f f' : α → ExceptT ε (StateM τ) β}
    (h : Secures P act Q E) (hf : ∀ a, SameUnless (Q a) e N W (f a) (f' a)) :
    SameUnless P e N W (act >>= f) (act >>= f') := by
  intro s hs
  have hsecured := h s hs
  generalize hrun : act.run s = result at hsecured
  obtain ⟨r, s₁⟩ := result
  cases r with
  | ok a =>
      rw [run_bind_of_ok hrun, run_bind_of_ok hrun]
      exact hf a s₁ hsecured
  | error e' =>
      rw [run_bind_of_error hrun, run_bind_of_error hrun]
      exact .inl ⟨rfl, nofun⟩

/-- What comes after is the same, and it passes failures on. -/
theorem caught {ε' : Type} {e' : ε'} {f : Except ε α → ExceptT ε' (StateM τ) β}
    (h : SameUnless P e N W act act') (herror : ∀ s, ((f (.error e)).run s).1 = .error e')
    (hfailing : ∀ e s, ∃ e', ((f (.error e)).run s).1 = .error e') :
    SameUnless P e' N W (ExceptT.lift act.run >>= f) (ExceptT.lift act'.run >>= f) := by
  intro s hs
  have hrest (act : ExceptT ε (StateM τ) α) :
      (ExceptT.lift act.run >>= f).run s = (f (act.run s).1).run (act.run s).2 := rfl
  rw [hrest, hrest]
  rcases h s hs with ⟨hsame, hok⟩ | ⟨hfails, hw⟩
  · refine .inl ⟨by rw [hsame], fun b hb => ?_⟩
    cases hr : (act.run s).1 with
    | ok a => exact hok a hr
    | error e =>
        obtain ⟨e', he'⟩ := hfailing e (act.run s).2
        rw [hr, he'] at hb
        cases hb
  · rw [hfails]
    exact .inr ⟨herror _, hw⟩

theorem weaken {N' : Prop} (h : SameUnless P e N W act act') (hN : N → N') :
    SameUnless P e N' W act act' :=
  fun s hs => (h s hs).imp_left fun ⟨hsame, hok⟩ => ⟨hsame, fun a ha => hN (hok a ha)⟩

theorem before {f : α → ExceptT ε (StateM τ) β} (h : SameUnless P e N W act act') :
    SameUnless P e N W (act >>= f) (act' >>= f) := by
  have hbind (act : ExceptT ε (StateM τ) α) :
      act >>= f = ExceptT.lift act.run >>= fun r => ExceptT.mk (ExceptT.bindCont f r) := rfl
  rw [hbind, hbind]
  exact h.caught (fun _ => rfl) fun _ _ => ⟨_, rfl⟩

theorem surfaced {σ : Type} {P : Session σ → Prop} {f : Failure} {act act' : Act σ Failure α}
    (h : SameUnless P f N W act act') :
    SameUnless P (.ofFailure f) N W (surfaced act) (surfaced act') := by
  refine h.caught (f := fun r => ExceptT.mk (pure (r.mapError Error.ofFailure))) (fun _ => rfl)
    fun _ _ => ⟨_, rfl⟩

/-- An outcome that is looked at before it is passed on. -/
theorem after_run {ε' : Type} {e' : ε'} {Q : α → τ → Prop} {E : τ → Prop}
    {f f' : Except ε α → ExceptT ε' (StateM τ) β} (h : Secures P act Q E)
    (hok : ∀ a, SameUnless (Q a) e' N W (f (.ok a)) (f' (.ok a)))
    (herror : ∀ e, SameUnless E e' N W (f (.error e)) (f' (.error e))) :
    SameUnless P e' N W (ExceptT.lift act.run >>= f) (ExceptT.lift act.run >>= f') := by
  intro s hs
  have hsecured := h s hs
  have hrest (f : Except ε α → ExceptT ε' (StateM τ) β) :
      (ExceptT.lift act.run >>= f).run s = (f (act.run s).1).run (act.run s).2 := rfl
  rw [hrest, hrest]
  cases hr : (act.run s).1 with
  | ok a =>
      rw [hr] at hsecured
      exact hok a _ hsecured
  | error e =>
      rw [hr] at hsecured
      exact herror e _ hsecured

end SameUnless

/-! ## Statements and transactions -/

section

variable {σ : Type} {d : Driver σ} {P E : Session σ → Prop} {e : Error}

theorem SameUnless.runStatement {sql : String} {kind : StatementKind} {keys : GeneratedKeys}
    {configure : StatementId → Act σ Error Unit} {action action' : StatementId → Act σ Error α}
    {R : StatementId → Session σ → Prop} (hask : Triple P (d.ask .isClosed) fun _ => P)
    (hprepare : Secures P (d.prepare sql kind keys) R E)
    (hconfigure : ∀ i, Keeps (R i) (configure i))
    (haction : ∀ i, SameUnless (R i) e N W (action i) (action' i)) :
    SameUnless P e N W (d.runStatement sql kind keys configure action)
      (d.runStatement sql kind keys configure action') := by
  have guarded := Driver.guardStatement_secures hask (fun _ _ => trivial)
    hprepare.yields
  refine after guarded fun guard => ?_
  obtain ⟨i, phase⟩ := guard
  rintro s ⟨rfl, hs⟩
  have configured : Secures (R i)
      (d.dropOnError ⟨i, .prepared⟩ (StatementGuard.configure ⟨i, .prepared⟩ configure))
      (fun _ => R i) fun _ => True :=
    Driver.dropOnError_secures (hconfigure i) fun _ _ => trivial
  refine after configured (fun _ => ?_) s hs
  -- how the execution went is told by its outcome alone
  have outcome (action : StatementId → Act σ Error α)
      (f : Except Error α × StatementGuard → Act σ Error (α × StatementGuard)) :
      ExceptT.lift (StatementGuard.run ⟨i, .prepared⟩ action) >>= f =
        ExceptT.lift (action i).run >>= fun r =>
          f (r, ⟨i, if r.toBool then .succeeded else .failed⟩) := by
    funext s
    change (ExceptT.lift (StatementGuard.run ⟨i, .prepared⟩ action) >>= f).run s =
      (ExceptT.lift (action i).run >>= _).run s
    generalize hrun : (action i).run s = result
    obtain ⟨r, s₁⟩ := result
    cases r with
    | ok a =>
        have hguard : StatementGuard.run ⟨i, .prepared⟩ action s = ((.ok a, ⟨i, .succeeded⟩), s₁) :=
          guard_run_iff.mpr ⟨rfl, hrun, rfl⟩
        rw [run_bind_of_ok (run_lift hguard), run_bind_of_ok (run_lift hrun)]
        rfl
    | error e =>
        have hguard : StatementGuard.run ⟨i, .prepared⟩ action s =
            ((.error e, ⟨i, .failed⟩), s₁) := by
          unfold StatementGuard.run
          rw [if_pos rfl, bind_of_run hrun]
          rfl
        rw [run_bind_of_ok (run_lift hguard), run_bind_of_ok (run_lift hrun)]
        rfl
  rw [outcome, outcome]
  exact (haction i).caught (fun _ => rfl) fun _ _ => ⟨_, rfl⟩

/-- The calls before the action keep what it relies on. -/
theorem SameUnless.inTransaction {act act' : Act σ Error α} (wanted : Option IsolationLevel)
    (hask : ∀ p, Triple P (d.ask p) fun _ => P) (hcall : d.KeepsAround P)
    (h : SameUnless P e N W act act') :
    SameUnless P e N W (d.inTransaction wanted act) (d.inTransaction wanted act') := by
  refine after (hcall .autoCommit rfl nofun).surfaced fun a => ?_
  refine after (hcall .isolation rfl nofun).surfaced fun b => ?_
  refine after (hcall (.setAutoCommit false) rfl nofun).surfaced fun _ => ?_
  refine after_run (hcall .setSavepoint rfl nofun) (fun p => ?_) fun f =>
    of_failing fun s => ⟨_, rfl⟩
  have changed : Keeps P (d.changeIsolation wanted b) := Driver.changeIsolation_secures
    (A := fun _ _ => P) (fun _ _ hs => hs) (fun _ _ _ => hask _) (fun _ _ hs => hs)
    fun _ => hcall _ rfl nofun
  refine after_run changed (fun c => ?_) fun f => of_failing fun s => ⟨_, rfl⟩
  exact h.before.caught (fun _ => rfl) fun _ _ => ⟨_, rfl⟩

end

end SqlGateway
