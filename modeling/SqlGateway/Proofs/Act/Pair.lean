import SqlGateway.Execution.Update
import SqlGateway.Proofs.Act.Execution
import SqlGateway.Proofs.Act.Transaction

/-!
# Acts side by side

Two acts are compared on states that are related. They match if they give the same result and lead
to states that are related again; an act that matches itself respects the relation. Executions and
transactions that differ in their middle part only match if that part does.
-/

namespace SqlGateway

variable {τ ε α β : Type} {R R' : τ → τ → Prop}

/-- From states with `R` two acts give the same result, and they lead to states with what `S` says
of that result. -/
def Alike (R : τ → τ → Prop) (act act' : StateM τ α) (S : α → τ → τ → Prop) : Prop :=
  ∀ s s', R s s' → (act s).1 = (act' s').1 ∧ S (act s).1 (act s).2 (act' s').2

/-- As `Settled`, for the two states after the same outcome. -/
def Paired (S : α → τ → τ → Prop) (E : τ → τ → Prop) : Except ε α → τ → τ → Prop
  | .ok a => S a
  | .error _ => E

/-- From states with `R` two acts both succeed with the same value and lead to `S`, or both fail
with the same error and lead to `E`. -/
def Matches (R : τ → τ → Prop) (act act' : ExceptT ε (StateM τ) α) (S : α → τ → τ → Prop)
    (E : τ → τ → Prop) : Prop :=
  Alike R act.run act'.run (Paired S E)

/-- The act does the same in related states, and leaves them related. -/
abbrev Respects (R : τ → τ → Prop) (act : ExceptT ε (StateM τ) α) : Prop :=
  Matches R act act (fun _ => R) R

/-! ## Acts that cannot fail -/

namespace Alike

variable {act act' : StateM τ α} {S S' : α → τ → τ → Prop}

theorem pure {a : α} (h : ∀ s s', R s s' → S a s s') : Alike R (Pure.pure a) (Pure.pure a) S :=
  fun s s' hs => ⟨rfl, h s s' hs⟩

theorem bind {f f' : α → StateM τ β} {T : β → τ → τ → Prop} (h : Alike R act act' S)
    (hf : ∀ a, Alike (S a) (f a) (f' a) T) : Alike R (act >>= f) (act' >>= f') T := by
  intro s s' hs
  obtain ⟨hresult, hs⟩ := h s s' hs
  have hrest : (act' >>= f') s' = f' (act s).1 (act' s').2 := by
    rw [hresult]
    rfl
  rw [hrest]
  exact hf _ _ _ hs

theorem weaken (h : Alike R act act' S) (hS : ∀ a s s', S a s s' → S' a s s') :
    Alike R act act' S' :=
  fun s s' hs => ⟨(h s s' hs).1, hS _ _ _ (h s s' hs).2⟩

/-- What is known apart from the states may be used from the start. -/
theorem assuming {p : Prop} (h : p → Alike R act act' S) :
    Alike (fun s s' => p ∧ R s s') act act' S :=
  fun s s' hs => h hs.1 s s' hs.2

end Alike

/-! ## Acts that may fail -/

namespace Matches

variable {act act' : ExceptT ε (StateM τ) α} {S S' : α → τ → τ → Prop} {E E' : τ → τ → Prop}

theorem pure {a : α} (h : ∀ s s', R s s' → S a s s') :
    Matches R (Pure.pure a : ExceptT ε (StateM τ) α) (Pure.pure a) S E :=
  fun s s' hs => ⟨rfl, h s s' hs⟩

theorem throw {e : ε} (h : ∀ s s', R s s' → E s s') :
    Matches R (MonadExcept.throw e : ExceptT ε (StateM τ) α) (MonadExcept.throw e) S E :=
  fun s s' hs => ⟨rfl, h s s' hs⟩

theorem bind {f f' : α → ExceptT ε (StateM τ) β} {T : β → τ → τ → Prop}
    (h : Matches R act act' S E) (hf : ∀ a, Matches (S a) (f a) (f' a) T E) :
    Matches R (act >>= f) (act' >>= f') T E := by
  change Alike R (act.run >>= ExceptT.bindCont f) (act'.run >>= ExceptT.bindCont f') _
  apply Alike.bind h
  intro r
  cases r with
  | ok a => exact hf a
  | error e => exact fun s s' hs => ⟨rfl, hs⟩

theorem weaken (h : Matches R act act' S E) (hS : ∀ a s s', S a s s' → S' a s s')
    (hE : ∀ s s', E s s' → E' s s') : Matches R act act' S' E' := by
  apply Alike.weaken h
  intro r s s'
  cases r with
  | ok a => exact hS a s s'
  | error e => exact hE s s'

theorem assuming {p : Prop} (h : p → Matches R act act' S E) :
    Matches (fun s s' => p ∧ R s s') act act' S E :=
  Alike.assuming h

theorem lift {act act' : StateM τ α} (h : Alike R act act' S) :
    Matches R (ExceptT.lift act : ExceptT ε (StateM τ) α) (ExceptT.lift act') S E :=
  fun s s' hs => ⟨congrArg Except.ok (h s s' hs).1, (h s s' hs).2⟩

/-- Acts whose outcome is looked at before it is passed on. -/
theorem lift_run {ε' : Type} {f f' : Except ε α → ExceptT ε' (StateM τ) β} {T : β → τ → τ → Prop}
    (h : Matches R act act' S E) (hok : ∀ a, Matches (S a) (f (.ok a)) (f' (.ok a)) T E')
    (herror : ∀ e, Matches E (f (.error e)) (f' (.error e)) T E') :
    Matches R (ExceptT.lift act.run >>= f) (ExceptT.lift act'.run >>= f') T E' := by
  apply bind (lift h)
  intro r
  cases r with
  | ok a => exact hok a
  | error e => exact herror e

theorem surfaced {σ : Type} {R E : Session σ → Session σ → Prop} {act act' : Act σ Failure α}
    {S : α → Session σ → Session σ → Prop} (h : Matches R act act' S E) :
    Matches R (surfaced act) (surfaced act') S E := by
  intro s s' hs
  obtain ⟨hresult, hs⟩ := h s s' hs
  refine ⟨congrArg (Except.mapError Error.ofFailure) hresult, ?_⟩
  revert hs
  change _ → Paired S E ((act.run s).1.mapError Error.ofFailure) (act.run s).2 (act'.run s').2
  cases (act.run s).1 <;> exact id

end Matches

namespace Respects

theorem pure {a : α} : Respects R (Pure.pure a : ExceptT ε (StateM τ) α) :=
  Matches.pure fun _ _ hs => hs

theorem throw {e : ε} : Respects R (MonadExcept.throw e : ExceptT ε (StateM τ) α) :=
  Matches.throw fun _ _ hs => hs

theorem ofExcept {r : Except ε α} :
    Respects R (MonadExcept.ofExcept r : ExceptT ε (StateM τ) α) := by
  cases r with
  | ok a => exact pure
  | error e => exact throw

theorem forM {f : α → ExceptT ε (StateM τ) PUnit} (h : ∀ a, Respects R (f a)) (o : Option α) :
    Respects R (ForM.forM o f) := by
  cases o with
  | none => exact pure
  | some a => exact h a

theorem mapM {f : α → ExceptT ε (StateM τ) β} (h : ∀ a, Respects R (f a)) (as : List α) :
    Respects R (as.mapM f) := by
  induction as with
  | nil => exact pure
  | cons a as ih =>
      rw [List.mapM_cons]
      apply Matches.bind (h a)
      intro b
      apply Matches.bind ih
      intro bs
      exact pure

/-- The outcome of an act is a result like any other. -/
theorem run {act act' : ExceptT ε (StateM τ) α} (h : Matches R act act' (fun _ => R') R') :
    Alike R act.run act'.run fun _ => R' := by
  apply Alike.weaken h
  intro r s s' hs
  cases r <;> exact hs

theorem of_run {act act' : ExceptT ε (StateM τ) α} (h : Alike R act.run act'.run fun _ => R') :
    Matches R act act' (fun _ => R') R' := by
  apply Alike.weaken h
  intro r s s' hs
  cases r <;> exact hs

end Respects

/-! ## Acts in a session -/

section

variable {σ : Type} {d : Driver σ} {R : Session σ → Session σ → Prop}
  (hnote : ∀ level text, Alike R (Session.note level text) (Session.note level text) fun _ => R)
include hnote

theorem Respects.orWarn {act : Act σ Failure Unit} (h : Respects R act) (what : String) :
    Alike R (orWarn act what) (orWarn act what) fun _ => R := by
  apply Alike.bind (Respects.run h)
  intro r
  cases r with
  | ok a => exact Alike.pure fun _ _ hs => hs
  | error f => exact hnote .warn _

theorem Respects.tolerating (setting : String) {act : Act σ Failure Unit} (h : Respects R act) :
    Respects R (tolerating setting act) := by
  apply Matches.lift_run h
  · intro a
    exact pure
  · intro f
    dsimp only
    split
    · exact Matches.lift (hnote .debug _)
    · exact throw

theorem Respects.applyOptions {i : StatementId} (options : Options)
    (hcall : ∀ c : Call, c.isOption = true → Respects R (d.perform c)) :
    Respects R (d.applyOptions i options) := by
  rw [Driver.applyOptions_eq]
  apply Matches.bind (Respects.forM (fun timeout => Respects.tolerating hnote _ (hcall _ rfl)) _)
  intro _
  apply Matches.bind (Respects.tolerating hnote _ (hcall _ rfl))
  intro _
  apply Matches.bind (Respects.tolerating hnote _ (hcall _ rfl))
  intro _
  apply Matches.bind (Respects.forM (fun rows => Respects.tolerating hnote _ (hcall _ rfl)) _)
  intro _
  exact Respects.forM (fun rows => Respects.tolerating hnote _ (hcall _ rfl)) _

/-! ## Statements -/

theorem Matches.dropOnError {P : Session σ → Session σ → Prop} {act act' : Act σ Error α}
    {S : α → Session σ → Session σ → Prop} {guard : StatementGuard}
    (hclose : Respects R (d.perform (.closeStatement guard.statement)))
    (h : Matches P act act' S R) :
    Matches P (d.dropOnError guard act) (d.dropOnError guard act') S R := by
  apply Matches.lift_run h
  · intro a
    exact Matches.pure fun _ _ hs => hs
  · intro e
    apply Matches.bind (Matches.lift (Respects.orWarn hnote hclose _))
    intro _
    exact Matches.throw fun _ _ hs => hs

/-- Executions match if what they do with the statement does. `S` is what holds of a statement that
was prepared. -/
theorem Matches.runStatement {sql : String} {kind : StatementKind} {keys : GeneratedKeys}
    {configure : StatementId → Act σ Error Unit} {action action' : StatementId → Act σ Error α}
    {S : StatementId → Session σ → Session σ → Prop}
    (hask : ∀ p, Alike R (d.ask p) (d.ask p) fun _ => R)
    (hprepare : Matches R (d.prepare sql kind keys) (d.prepare sql kind keys) S R)
    (hconfigure : ∀ i, Matches (S i) (configure i) (configure i) (fun _ => S i) R)
    (haction : ∀ i, Matches (S i) (action i) (action' i) (fun _ => R) R)
    (hclose : ∀ i, Respects R (d.perform (.closeStatement i))) :
    Matches R (d.runStatement sql kind keys configure action)
      (d.runStatement sql kind keys configure action') (fun _ => R) R := by
  have guarded : Matches R (d.guardStatement sql kind keys) (d.guardStatement sql kind keys)
      (fun guard s s' => guard.phase = .prepared ∧ S guard.statement s s') R := by
    apply Matches.bind (Matches.lift (hask .isClosed))
    intro closed
    cases closed with
    | true => exact Matches.throw fun _ _ hs => hs
    | false =>
        apply Matches.bind hprepare.surfaced
        intro i
        exact Matches.pure fun _ _ hs => ⟨rfl, hs⟩
  apply Matches.bind guarded
  rintro ⟨i, phase⟩
  apply Matches.assuming
  rintro rfl
  apply Matches.bind (Matches.dropOnError hnote (hclose i) (hconfigure i))
  intro _
  have run : Alike (S i) (StatementGuard.run ⟨i, .prepared⟩ action)
      (StatementGuard.run ⟨i, .prepared⟩ action') fun _ => R := by
    apply Alike.bind (haction i)
    intro outcome
    cases outcome with
    | ok a => exact Alike.pure fun _ _ hs => hs
    | error e => exact Alike.pure fun _ _ hs => hs
  apply Matches.bind (Matches.lift run)
  rintro ⟨outcome, guard⟩
  apply Matches.bind (Matches.dropOnError hnote (hclose guard.statement) Respects.ofExcept)
  intro a
  exact Respects.pure

/-! ## Transactions -/

variable (hcall : ∀ c : Call, c.isTransactional = true → Respects R (d.perform c))
include hcall

theorem Respects.restore (autoCommit : Bool) (isolation : Option IsolationLevel) :
    Alike R (d.restore autoCommit isolation) (d.restore autoCommit isolation) fun _ => R := by
  apply Alike.bind (Respects.orWarn hnote (hcall _ rfl) _)
  intro _
  cases isolation with
  | none => exact Alike.pure fun _ _ hs => hs
  | some level => exact Respects.orWarn hnote (hcall _ rfl) _

theorem Respects.abort (savepoint : Savepoint) (autoCommit : Bool)
    (isolation : Option IsolationLevel) :
    Alike R (d.abort savepoint autoCommit isolation) (d.abort savepoint autoCommit isolation)
      fun _ => R := by
  apply Alike.bind (Respects.orWarn hnote (hcall _ rfl) _)
  intro _
  apply Alike.bind (Respects.orWarn hnote (hcall _ rfl) _)
  intro _
  exact Respects.restore hnote hcall autoCommit isolation

omit hnote in
theorem Respects.putBack (autoCommit : Bool) (isolation : Option IsolationLevel) (value : α) :
    Respects R (d.putBack autoCommit isolation value) := by
  apply Matches.bind (Matches.lift (Respects.run (hcall _ rfl).surfaced))
  intro restored
  have last (reverted : Except Error Unit) : Respects R
      (do MonadExcept.ofExcept restored; MonadExcept.ofExcept reverted; return value :
        Act σ Error α) := by
    apply Matches.bind Respects.ofExcept
    intro _
    apply Matches.bind Respects.ofExcept
    intro _
    exact Respects.pure
  cases isolation with
  | none => exact last (.ok ())
  | some level => exact Matches.bind (Matches.lift (Respects.run (hcall _ rfl).surfaced)) last

variable (hask : ∀ p, Alike R (d.ask p) (d.ask p) fun _ => R)
include hask

omit hnote in
theorem Respects.changeIsolation (wanted : Option IsolationLevel) (before : IsolationLevel) :
    Respects R (d.changeIsolation wanted before) := by
  cases wanted with
  | none => exact pure
  | some level =>
      unfold Driver.changeIsolation
      dsimp only
      split
      · exact pure
      · apply Matches.bind (Matches.lift (hask _))
        intro supported
        cases supported with
        | true =>
            apply Matches.bind (hcall _ rfl)
            intro _
            exact pure
        | false => exact pure

/-- Transactions match if what they do after the savepoint does. -/
theorem Matches.inTransaction {act act' : Act σ Error α} (isolation : Option IsolationLevel)
    (h : Matches R act act' (fun _ => R) R) :
    Matches R (d.inTransaction isolation act) (d.inTransaction isolation act') (fun _ => R) R := by
  apply Matches.bind (hcall _ rfl).surfaced
  intro autoCommit
  apply Matches.bind (hcall _ rfl).surfaced
  intro before
  apply Matches.bind (hcall _ rfl).surfaced
  intro _
  apply Matches.lift_run (hcall _ rfl)
  case herror =>
    intro f
    apply Matches.bind (Matches.lift (Respects.restore hnote hcall autoCommit none))
    intro _
    exact Respects.throw
  intro savepoint
  apply Matches.lift_run (Respects.changeIsolation hcall hask isolation before)
  case herror =>
    intro f
    apply Matches.bind (Matches.lift (Respects.abort hnote hcall savepoint autoCommit none))
    intro _
    exact Respects.throw
  intro changed
  have committed : Matches R
      (do let value ← act; SqlGateway.surfaced (d.perform .commit); return value)
      (do let value ← act'; SqlGateway.surfaced (d.perform .commit); return value)
      (fun _ => R) R := by
    apply Matches.bind h
    intro value
    apply Matches.bind (hcall _ rfl).surfaced
    intro _
    exact Respects.pure
  apply Matches.lift_run committed (Respects.putBack hcall autoCommit changed)
  intro e
  apply Matches.bind (Matches.lift (hnote .debug _))
  intro _
  apply Matches.bind (Matches.lift (Respects.abort hnote hcall savepoint autoCommit changed))
  intro _
  exact Respects.throw

end

end SqlGateway
