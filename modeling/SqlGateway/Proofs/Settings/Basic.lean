import SqlGateway.Driver.Basic

/-!
# Stored settings

A connection stores whether it is in auto-commit mode, and its isolation level. Only two calls set
them, a call that fails sets nothing, and what is asked for is answered with what is stored.
-/

namespace SqlGateway

/-- The settings of a connection. -/
structure Stored where
  autoCommit : Bool
  isolation : IsolationLevel
  deriving DecidableEq, Repr

/-- The call sets something that the connection stores. -/
def Call.setsStored : Call → Bool
  | .setAutoCommit _ | .setIsolation _ => true
  | _ => false

/-- Where a driver stores the settings of its connection, and that it keeps to the rules. -/
structure StoredSettings {σ : Type} (d : Driver σ) where
  read : σ → Stored
  probe : ∀ p s, read (d.probe p s).2 = read s
  other : ∀ c s, c.setsStored = false → read (d.call c s).2 = read s
  failed : ∀ {c s f s'}, d.call c s = (.error f, s') → read s' = read s
  setAutoCommit : ∀ {a s u s'}, d.call (.setAutoCommit a) s = (.ok u, s') →
    read s' = { read s with autoCommit := a }
  setIsolation : ∀ {b s u s'}, d.call (.setIsolation b) s = (.ok u, s') →
    read s' = { read s with isolation := b }
  autoCommit : ∀ {a s s'}, d.call .autoCommit s = (.ok a, s') → a = (read s).autoCommit
  isolation : ∀ {b s s'}, d.call .isolation s = (.ok b, s') → b = (read s).isolation

/-- What is stored after a call that succeeded. -/
def Call.store (v : Stored) : Call → Stored
  | .setAutoCommit a => { v with autoCommit := a }
  | .setIsolation b => { v with isolation := b }
  | _ => v

theorem StoredSettings.stored_of_ok {σ : Type} {d : Driver σ} (S : StoredSettings d) {c : Call}
    {s s' : σ} {a : c.Answer} (h : d.call c s = (.ok a, s')) : S.read s' = c.store (S.read s) := by
  have other (hc : c.setsStored = false) : S.read s' = S.read s := by
    have := S.other c s hc
    rwa [h] at this
  cases c with
  | setAutoCommit a => exact S.setAutoCommit h
  | setIsolation b => exact S.setIsolation h
  | _ => exact other rfl

end SqlGateway
