import SqlGateway.Proofs.Act.Transaction
import SqlGateway.Proofs.Conduct.Basic

/-!
# Conduct of transactions

A transaction makes a few calls before its action and a few after it. If these keep a condition, or
leave an error that they come to, then so does the transaction around any action.
-/

namespace SqlGateway

variable {σ α : Type} {d : Driver σ} {P P' : Session σ → Prop} {E : Error → Session σ → Prop}

/-- The calls of a transaction itself keep `P`, or they come to an error, and what holds of that is
kept from then on. -/
structure Abiding (d : Driver σ) (P : Session σ → Prop) (E : Error → Session σ → Prop) : Prop where
  ask (p : Probe) : Triple P (d.ask p) fun _ => P
  call (c : Call) : c.isTransactional = true →
    Meets P (d.perform c) (fun _ => P) fun f => E (.ofFailure f)
  late (e : Error) (c : Call) : c.isTransactional = true → Keeps (E e) (d.perform c)
  log (e : Error) (s : Session σ) (l : List LogEntry) : E e s → E e { s with log := l }

theorem Meets.undone {act : Plain σ Unit} {e : Error} {Q : α → Session σ → Prop}
    (h : Triple (E e) act fun _ => E e) :
    Meets (E e) (do ExceptT.lift act; MonadExcept.throw e : Act σ Error α) Q E :=
  Meets.bind (Meets.lift h) fun _ => Meets.throw fun _ hs => hs

namespace Abiding

variable (h : Abiding d P E)
include h

theorem changeIsolation (wanted : Option IsolationLevel) (before : IsolationLevel) :
    Meets P (d.changeIsolation wanted before) (fun _ => P) fun f => E (.ofFailure f) := by
  cases wanted with
  | none => exact Meets.pure fun _ hs => hs
  | some level =>
      unfold Driver.changeIsolation
      dsimp only
      split
      · exact Meets.pure fun _ hs => hs
      · refine Meets.bind (Meets.lift (h.ask (.supportsIsolation level))) fun supported => ?_
        cases supported with
        | true =>
            refine Meets.bind (h.call (.setIsolation level) rfl) fun _ => ?_
            exact Meets.pure fun _ hs => hs
        | false => exact Meets.pure fun _ hs => hs

theorem beginTransaction (wanted : Option IsolationLevel) :
    Meets P (d.beginTransaction wanted) (fun _ => P) E := by
  refine Meets.bind (h.call .autoCommit rfl).surfaced fun autoCommit => ?_
  refine Meets.bind (h.call .isolation rfl).surfaced fun before => ?_
  refine Meets.bind (h.call (.setAutoCommit false) rfl).surfaced fun _ => ?_
  refine Meets.lift_run (h.call .setSavepoint rfl) (fun savepoint => ?_) fun f => ?_
  · refine Meets.lift_run (h.changeIsolation wanted before) (fun changed => ?_) fun f => ?_
    · exact Meets.pure fun _ hs => hs
    · exact Meets.undone (Keeps.abort (h.log _) (h.late _) savepoint autoCommit none)
  · exact Meets.undone (Keeps.restore (h.log _) (h.late _) autoCommit none)

theorem putBack {Q : α → Session σ → Prop} {value : α} (hQ : ∀ s, P s → Q value s)
    (autoCommit : Bool) (isolation : Option IsolationLevel) :
    Meets P (d.putBack autoCommit isolation value) Q E := by
  have restored := (h.call (.setAutoCommit autoCommit) rfl).surfaced
  cases isolation with
  | none =>
      have nothing : Meets P (pure () : Act σ Error Unit) (fun _ => P) E :=
        Meets.pure fun _ hs => hs
      have done := Meets.both (f := fun _ => value) restored nothing
        (fun e => Triple.pure fun _ hs => hs) fun _ => hQ
      exact done
  | some level =>
      exact Meets.both (f := fun _ => value) restored (h.call (.setIsolation level) rfl).surfaced
        (fun e => (h.late e (.setIsolation level) rfl).surfaced.run) fun _ => hQ

end Abiding

/-- What holds of what the action gives is kept to the end of the transaction. -/
theorem Abiding.endTransaction {Q : α → Session σ → Prop} (h : ∀ a, Abiding d (Q a) E)
    (hlate : ∀ e c, c.isTransactional = true → Keeps (E e) (d.perform c))
    (hlog : ∀ e s l, E e s → E e { s with log := l })
    {act : Act σ Error α} (hact : Meets P' act Q E)
    (begun : Bool × Savepoint × Option IsolationLevel) :
    Meets P' (d.endTransaction act begun) Q E := by
  obtain ⟨autoCommit, savepoint, changed⟩ := begun
  refine Meets.lift_run (Q := Q) (E := E) ?_ (fun value => ?_) fun e => ?_
  · refine Meets.bind hact fun value => ?_
    exact Meets.bind ((h value).call .commit rfl).surfaced fun _ => Meets.pure fun _ hs => hs
  · exact (h value).putBack (fun _ hs => hs) autoCommit changed
  · refine Meets.bind (Meets.lift (Keeps.debug (hlog e) _)) fun _ => ?_
    exact Meets.undone (Keeps.abort (hlog e) (hlate e) savepoint autoCommit changed)

theorem Abiding.inTransaction (h : Abiding d P E) {act : Act σ Error α}
    (hact : Meets P act (fun _ => P) E) (isolation : Option IsolationLevel) :
    Meets P (d.inTransaction isolation act) (fun _ => P) E := by
  rw [Driver.inTransaction_eq]
  exact Meets.bind (h.beginTransaction isolation)
    (Abiding.endTransaction (fun _ => h) h.late h.log hact)

end SqlGateway
