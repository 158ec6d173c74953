import SqlGateway.Execution.Transaction
import SqlGateway.Proofs.Act.Execution

/-!
# Outlines of transactions

An outline says what holds of a session between the calls of a transaction. Each of its laws is
about one of the calls; together they say what a whole transaction does, whichever of them fail.
-/

namespace SqlGateway

variable {σ α : Type}

/-- The end of a transaction that was committed. -/
def Driver.putBack (d : Driver σ) (autoCommit : Bool) (isolation : Option IsolationLevel)
    (value : α) : Act σ Error α := do
  let restored ← ExceptT.lift (surfaced (d.perform (.setAutoCommit autoCommit))).run
  let reverted ← match isolation with
    | some level => ExceptT.lift (surfaced (d.perform (.setIsolation level))).run
    | none => pure (.ok ())
  MonadExcept.ofExcept restored
  MonadExcept.ofExcept reverted
  return value

/-- A transaction up to its action. It gives what auto-commit was, the savepoint, and the level to
go back to. -/
def Driver.beginTransaction (d : Driver σ) (wanted : Option IsolationLevel) :
    Act σ Error (Bool × Savepoint × Option IsolationLevel) := do
  let autoCommit ← surfaced (d.perform .autoCommit)
  let before ← surfaced (d.perform .isolation)
  surfaced (d.perform (.setAutoCommit false))
  match ← ExceptT.lift (d.perform .setSavepoint).run with
  | .error f =>
    ExceptT.lift (d.restore autoCommit none)
    throw (.ofFailure f)
  | .ok savepoint =>
    match ← ExceptT.lift (d.changeIsolation wanted before).run with
    | .error f =>
      ExceptT.lift (d.abort savepoint autoCommit none)
      throw (.ofFailure f)
    | .ok changed => return (autoCommit, savepoint, changed)

/-- A transaction from its action on. -/
def Driver.endTransaction (d : Driver σ) (act : Act σ Error α) :
    Bool × Savepoint × Option IsolationLevel → Act σ Error α
  | (autoCommit, savepoint, changed) => do
    let committed : Act σ Error α := do
      let value ← act
      surfaced (d.perform .commit)
      return value
    match ← ExceptT.lift committed.run with
    | .ok value => d.putBack autoCommit changed value
    | .error e =>
      ExceptT.lift (Session.debug s!"Rolling back to {savepoint.name}: {e.message}")
      ExceptT.lift (d.abort savepoint autoCommit changed)
      throw e

theorem Driver.inTransaction_eq (d : Driver σ) (wanted : Option IsolationLevel)
    (act : Act σ Error α) :
    d.inTransaction wanted act = d.beginTransaction wanted >>= d.endTransaction act := by
  unfold Driver.inTransaction Driver.beginTransaction
  simp only [bind_assoc]
  refine bind_congr fun autoCommit => bind_congr fun before => bind_congr fun _ => ?_
  refine bind_congr fun marked => ?_
  cases marked with
  | error f => simp only [bind_assoc]; rfl
  | ok savepoint =>
      simp only [bind_assoc]
      refine bind_congr fun leveled => ?_
      cases leveled with
      | error f => simp only [bind_assoc]; rfl
      | ok changed => rfl

/-- Before the transaction auto-commit was `a` and the isolation level `b`. The savepoint is `p`,
and `c` is the level to go back to, if it was changed. -/
structure Outline (d : Driver σ) (wanted : Option IsolationLevel) (act : Act σ Error α)
    (P : Session σ → Prop) (Q : α → Session σ → Prop) (E : Session σ → Prop) where
  asked (a : Bool) : Session σ → Prop
  known (a : Bool) (b : IsolationLevel) : Session σ → Prop
  manual (a : Bool) (b : IsolationLevel) : Session σ → Prop
  unmarked (a : Bool) (b : IsolationLevel) : Session σ → Prop
  marked (a : Bool) (b : IsolationLevel) (p : Savepoint) : Session σ → Prop
  ready (a : Bool) (b : IsolationLevel) (p : Savepoint) (c : Option IsolationLevel) :
    Session σ → Prop
  worked (a : Bool) (b : IsolationLevel) (p : Savepoint) (c : Option IsolationLevel) (v : α) :
    Session σ → Prop
  failing (a : Bool) (b : IsolationLevel) (p : Savepoint) (c : Option IsolationLevel) :
    Session σ → Prop
  committed (a : Bool) (b : IsolationLevel) (c : Option IsolationLevel) (v : α) : Session σ → Prop
  autoCommit : Secures P (d.perform .autoCommit) asked E
  isolation a : Secures (asked a) (d.perform .isolation) (known a) E
  setAutoCommit a b :
    Secures (known a b) (d.perform (.setAutoCommit false)) (fun _ => manual a b) E
  setSavepoint a b : Secures (manual a b) (d.perform .setSavepoint) (marked a b) (unmarked a b)
  restore a b : Triple (unmarked a b) (d.restore a none) fun _ => E
  changeIsolation a b p :
    Secures (marked a b p) (d.changeIsolation wanted b) (ready a b p) (failing a b p none)
  act a b p c : Secures (ready a b p c) act (worked a b p c) (failing a b p c)
  commit a b p c v :
    Secures (worked a b p c v) (d.perform .commit) (fun _ => committed a b c v) (failing a b p c)
  putBack a b c v : Secures (committed a b c v) (d.putBack a c v) Q E
  log a b p c s l : failing a b p c s → failing a b p c { s with log := l }
  abort a b p c : Triple (failing a b p c) (d.abort p a c) fun _ => E

theorem Outline.secures {d : Driver σ} {wanted : Option IsolationLevel} {act : Act σ Error α}
    {P : Session σ → Prop} {Q : α → Session σ → Prop} {E : Session σ → Prop}
    (o : Outline d wanted act P Q E) : Secures P (d.inTransaction wanted act) Q E := by
  refine Secures.bind o.autoCommit.surfaced fun a => ?_
  refine Secures.bind (o.isolation a).surfaced fun b => ?_
  refine Secures.bind (o.setAutoCommit a b).surfaced fun _ => ?_
  refine Secures.lift_run (o.setSavepoint a b) (fun p => ?_) fun f => ?_
  · refine Secures.lift_run (o.changeIsolation a b p) (fun c => ?_) fun f => ?_
    · refine Secures.lift_run (Q := o.committed a b c) (E := o.failing a b p c) ?_
        (o.putBack a b c) fun e => ?_
      · refine Secures.bind (o.act a b p c) fun v => ?_
        exact Secures.bind (o.commit a b p c v).surfaced fun _ => Secures.pure fun _ hs => hs
      · refine Secures.bind (Q := fun _ => o.failing a b p c)
          (Secures.lift fun s hs => o.log a b p c s _ hs) fun _ => ?_
        exact Secures.bind (Secures.lift (o.abort a b p c)) fun _ => Secures.throw fun _ hs => hs
    · exact Secures.bind (Secures.lift (o.abort a b p none)) fun _ => Secures.throw fun _ hs => hs
  · exact Secures.bind (Secures.lift (o.restore a b)) fun _ => Secures.throw fun _ hs => hs

/-! ## Parts of an outline -/

variable {d : Driver σ} {P E : Session σ → Prop}

theorem Driver.restore_triple {Q R : Session σ → Prop} {a : Bool} {c : Option IsolationLevel}
    (hlogQ : ∀ s l, Q s → Q { s with log := l }) (hlogR : ∀ s l, R s → R { s with log := l })
    (hauto : Secures P (d.perform (.setAutoCommit a)) (fun _ => Q) Q)
    (hlevel : ∀ b, c = some b → Secures Q (d.perform (.setIsolation b)) (fun _ => R) R)
    (hnone : c = none → ∀ s, Q s → R s) : Triple P (d.restore a c) fun _ => R := by
  refine Triple.bind (Secures.orWarn hlogQ hauto) fun _ => ?_
  cases c with
  | none => exact Triple.pure (hnone rfl)
  | some b => exact Secures.orWarn hlogR (hlevel b rfl)

theorem Keeps.restore (hlog : ∀ s l, P s → P { s with log := l })
    (hcall : ∀ c : Call, c.isTransactional = true → Keeps P (d.perform c)) (autoCommit : Bool)
    (isolation : Option IsolationLevel) :
    Triple P (d.restore autoCommit isolation) fun _ => P :=
  Driver.restore_triple hlog hlog (hcall (.setAutoCommit _) rfl)
    (fun _ _ => hcall (.setIsolation _) rfl) fun _ _ hs => hs

/-- What every call of a transaction keeps is kept by its being undone. -/
theorem Keeps.abort (hlog : ∀ s l, P s → P { s with log := l })
    (hcall : ∀ c : Call, c.isTransactional = true → Keeps P (d.perform c)) (savepoint : Savepoint)
    (autoCommit : Bool) (isolation : Option IsolationLevel) :
    Triple P (d.abort savepoint autoCommit isolation) fun _ => P := by
  refine Triple.bind (Secures.orWarn hlog (hcall (.rollbackTo _) rfl)) fun _ => ?_
  refine Triple.bind (Secures.orWarn hlog (hcall (.releaseSavepoint _) rfl)) fun _ => ?_
  exact Keeps.restore hlog hcall autoCommit isolation

theorem Driver.changeIsolation_secures {wanted : Option IsolationLevel} {b : IsolationLevel}
    {A : IsolationLevel → Bool → Session σ → Prop} {R : Option IsolationLevel → Session σ → Prop}
    (hsame : (∀ l, wanted = some l → l = b) → ∀ s, P s → R none s)
    (hask : ∀ l, wanted = some l → l ≠ b → Triple P (d.ask (.supportsIsolation l)) (A l))
    (hunsupported : ∀ l s, A l false s → R none s)
    (hset : ∀ l, Secures (A l true) (d.perform (.setIsolation l)) (fun _ => R (some b)) E) :
    Secures P (d.changeIsolation wanted b) R E := by
  cases wanted with
  | none => exact Secures.pure (hsame nofun)
  | some l =>
      unfold Driver.changeIsolation
      dsimp only
      split
      · rename_i hl
        exact Secures.pure (hsame fun l' h => Option.some.inj h ▸ hl)
      · rename_i hl
        refine Secures.bind (Secures.lift (hask l rfl hl)) fun supported => ?_
        cases supported with
        | true => exact Secures.bind (hset l) fun _ => Secures.pure fun _ hs => hs
        | false => exact Secures.pure (hunsupported l)

/-- `M` and `R` are told whether everything has succeeded so far. -/
theorem Driver.putBack_secures {M R : Bool → Session σ → Prop} {a : Bool}
    {c : Option IsolationLevel}
    {v : α} (hauto : Secures P (d.perform (.setAutoCommit a)) (fun _ => M true) (M false))
    (hlevel : ∀ b, c = some b → ∀ ok,
      Secures (M ok) (d.perform (.setIsolation b)) (fun _ => R ok) (R false))
    (hnone : c = none → ∀ ok s, M ok s → R ok s) :
    Secures P (d.putBack a c v) (fun _ => R true) (R false) := by
  cases c with
  | none =>
      have hkept (ok : Bool) :
          Secures (M ok) (pure () : Act σ Error Unit) (fun _ => R ok) (R false) :=
        Secures.pure (hnone rfl ok)
      -- where there is no level to go back to, the second act is one that does nothing
      have hputBack : d.putBack a none v = (do
          let restored ← ExceptT.lift (surfaced (d.perform (.setAutoCommit a))).run
          let reverted ← ExceptT.lift (pure () : Act σ Error Unit).run
          let _ ← MonadExcept.ofExcept restored
          MonadExcept.ofExcept reverted
          return v) := rfl
      rw [hputBack]
      exact Secures.both (f := fun _ => v) hauto.surfaced hkept
  | some b =>
      exact Secures.both (f := fun _ => v) hauto.surfaced fun ok => (hlevel b rfl ok).surfaced

/-! ## Results -/

theorem Driver.putBack_value {F : α → Prop} (a : Bool) (c : Option IsolationLevel) (v : α) :
    Secures (fun _ => F v) (d.putBack a c v) (fun v _ => F v) fun _ => True := by
  have last (restored reverted : Except Error Unit) : Secures (fun _ => F v)
      (do MonadExcept.ofExcept restored; MonadExcept.ofExcept reverted; return v : Act σ Error α)
      (fun v _ => F v) fun _ => True := by
    cases restored <;> cases reverted <;> first | exact fun _ hs => hs | exact fun _ _ => trivial
  apply Secures.bind (Q := fun _ _ => F v) (Secures.lift fun _ hs => hs)
  intro restored
  cases c with
  | none => exact last restored (.ok ())
  | some b => exact Secures.bind (Q := fun _ _ => F v) (Secures.lift fun _ hs => hs) (last restored)

/-- The calls of a transaction keep the condition, but for the one that undoes what was done. -/
def Driver.KeepsAround (d : Driver σ) (P : Session σ → Prop) : Prop :=
  ∀ c : Call, c.isTransactional = true → (∀ p, c ≠ .rollbackTo p) → Keeps P (d.perform c)

theorem Driver.putBack_yields {Q : α → Session σ → Prop} {v : α} (hkept : d.KeepsAround (Q v))
    (a : Bool) (c : Option IsolationLevel) : Yields (Q v) (d.putBack a c v) Q := by
  -- nothing is known any more once a call has failed
  have known (c : Call) (hc : c.isTransactional = true) (hne : ∀ p, c ≠ .rollbackTo p) (ok : Bool) :
      Secures (fun s => ok = true → Q v s) (d.perform c) (fun _ s => ok = true → Q v s)
        fun s => false = true → Q v s := by
    cases ok with
    | false => exact d.perform_secures (fun _ _ _ _ _ => nofun) fun _ _ _ _ _ => nofun
    | true =>
        exact Secures.weaken (Secures.strengthen (hkept c hc hne) fun _ hs => hs rfl)
          (fun _ _ hs _ => hs) fun _ _ => nofun
  have hkeeps := Driver.putBack_secures (P := Q v) (M := fun ok s => ok = true → Q v s)
    (R := fun ok s => ok = true → Q v s) (a := a) (c := c) (v := v)
    (Secures.strengthen (known (.setAutoCommit a) rfl nofun true) fun _ hs _ => hs)
    (fun b _ ok => known (.setIsolation b) rfl nofun ok) fun _ _ _ hs => hs
  have hvalue : Yields (Q v) (d.putBack a c v) fun v' _ => v' = v :=
    Secures.strengthen (d.putBack_value a c v) fun _ _ => rfl
  refine Secures.weaken (Secures.and hvalue hkeeps) ?_ fun _ _ => trivial
  rintro _ s ⟨rfl, hs⟩
  exact hs rfl

/-- What holds after an act holds after the transaction around it, if the calls at its end keep it.
`P` is what the act relies on; the calls before it keep that. -/
theorem Driver.inTransaction_yields {wanted : Option IsolationLevel} {act : Act σ Error α}
    {Q : α → Session σ → Prop} (hask : ∀ p, Triple P (d.ask p) fun _ => P) (hcall : d.KeepsAround P)
    (hkept : ∀ v, d.KeepsAround (Q v)) (hact : Yields P act Q) :
    Yields P (d.inTransaction wanted act) Q :=
  Outline.secures {
    asked := fun _ => P
    known := fun _ _ => P
    manual := fun _ _ => P
    unmarked := fun _ _ _ => True
    marked := fun _ _ _ => P
    ready := fun _ _ _ _ => P
    worked := fun _ _ _ _ => Q
    failing := fun _ _ _ _ _ => True
    committed := fun _ _ _ => Q
    autoCommit := (hcall .autoCommit rfl nofun).yields
    isolation := fun _ => (hcall .isolation rfl nofun).yields
    setAutoCommit := fun _ _ => (hcall (.setAutoCommit false) rfl nofun).yields
    setSavepoint := fun _ _ => (hcall .setSavepoint rfl nofun).yields
    restore := fun _ _ _ _ => trivial
    changeIsolation := fun _ _ _ => Driver.changeIsolation_secures (A := fun _ _ => P)
      (fun _ _ hs => hs) (fun _ _ _ => hask _) (fun _ _ hs => hs) fun l =>
        (hcall (.setIsolation l) rfl nofun).yields
    act := fun _ _ _ _ => hact
    commit := fun _ _ _ _ v => (hkept v .commit rfl nofun).yields
    putBack := fun a _ c v => Driver.putBack_yields (hkept v) a c
    log := fun _ _ _ _ _ _ _ => trivial
    abort := fun _ _ _ _ _ _ => trivial }

/-- What comes of running the rows of an update comes of the update. -/
theorem Driver.executeUpdate_yields {sql : String} {rows : List (List Value)} {options : Options}
    {Q : UInt64 → Session σ → Prop} (hlog : ∀ s l, P s → P { s with log := l })
    (hask : ∀ p, Triple P (d.ask p) fun _ => P) (hcall : d.KeepsAround P)
    (hkept : ∀ v, d.KeepsAround (Q v)) (hnone : rows = [] → ∀ s, P s → Q 0 s)
    (hrun : checkArity rows = .ok () → Yields P (d.runUpdate sql .none rows options fun i batch =>
      surfaced (d.runRows i rows options.large batch)) Q) :
    Yields P (d.executeUpdate sql rows options) Q := by
  have hdebug (text : String) :
      Yields P (ExceptT.lift (Session.debug text) : Act σ Error Unit) fun _ => P :=
    Secures.lift (Keeps.debug hlog text)
  unfold Driver.executeUpdate
  cases hwidths : checkArity rows with
  | error e => exact fun _ _ => trivial
  | ok u =>
      refine Secures.bind (Q := fun _ => P) (Secures.ofExcept (fun _ _ _ hs => hs) nofun)
        fun _ => ?_
      split
      · rename_i hempty
        exact Secures.bind (hdebug _) fun _ => Secures.pure (hnone (List.isEmpty_iff.mp hempty))
      · refine Secures.bind (hdebug _) fun _ => ?_
        unfold Driver.transacted
        split
        · exact Driver.inTransaction_yields hask hcall hkept (hrun hwidths)
        · exact hrun hwidths

end SqlGateway
