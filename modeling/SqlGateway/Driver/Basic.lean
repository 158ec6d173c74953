import SqlGateway.Driver.Call

/-!
# Drivers

A driver is given by what it does with each call, on a state of its own. It keeps a finite supply
of rows and results: none of the calls that do not execute a statement adds to it, and each row or
result that is moved on to is taken from it.
-/

namespace SqlGateway

structure Driver (σ : Type) where
  probe : Probe → σ → Bool × σ
  call : (c : Call) → σ → Except Failure c.Answer × σ
  /-- How many rows and results may still be moved on to. -/
  supply : σ → Nat
  supply_call : ∀ c s, c.executes = false → supply (call c s).2 ≤ supply s
  supply_next : ∀ c s, (call (.next c) s).1 = .ok true → supply (call (.next c) s).2 < supply s
  supply_moreResults : ∀ i s,
    (call (.moreResults i) s).1 = .ok true → supply (call (.moreResults i) s).2 < supply s
  supply_probe : ∀ p s, supply (probe p s).2 ≤ supply s

end SqlGateway
