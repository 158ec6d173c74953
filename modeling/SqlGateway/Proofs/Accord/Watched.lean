import SqlGateway.Proofs.Accord.Job
import SqlGateway.Proofs.Trace.Basic

/-!
# Watched drivers in accord

A driver that is watched is in accord with itself where the phases of an operation are told by what
has passed.
-/

namespace SqlGateway

variable {σ α ι : Type} {d : Driver σ} {p q : List Exchange → Prop}

/-- Both sessions are where the same calls have led to, and what has passed has the property. -/
structure Alongside (p : List Exchange → Prop) (s s' : Session (Traced σ)) : Prop where
  database : s.database = s'.database
  statements : s.statements = s'.statements
  cursors : s.cursors = s'.cursors
  passed : p s.trace

/-- The session with its driver watched from now on. -/
def Session.watched (s : Session σ) : Session (Traced σ) :=
  { s with database := { database := s.database } }

namespace Alongside

theorem mono {s s' : Session (Traced σ)} (h : Alongside p s s') (hp : ∀ u, p u → q u) :
    Alongside q s s' :=
  { h with passed := hp _ h.passed }

theorem unlogged : Unlogged (Alongside (σ := σ) p) :=
  fun _ _ _ _ h => ⟨h.database, h.statements, h.cursors, h.passed⟩

theorem ask {r : Probe} {q : Bool → List Exchange → Prop}
    (h : ∀ u answer, p u → q answer (u ++ [.probe r answer])) :
    Abreast (Alongside p) (d.traced.ask r) (d.traced.ask r)
      (Same fun answer => Alongside (q answer)) := by
  rintro s s' ⟨hdatabase, hstatements, hcursors, hs⟩
  obtain ⟨database, statements, cursors, log⟩ := s
  obtain ⟨database', statements', cursors', log'⟩ := s'
  subst hdatabase
  exact ⟨rfl, rfl, hstatements, hcursors, h _ _ hs⟩

/-- A call gives the same in both sessions. -/
theorem outcome {c : Call} {q : Except Failure c.Answer → List Exchange → Prop}
    (h : ∀ u r, p u → q r (u ++ [.call c r])) :
    Abreast (Alongside p) (d.traced.perform c).run (d.traced.perform c).run
      (Same fun r => Alongside (q r)) := by
  rintro s s' ⟨hdatabase, hstatements, hcursors, hs⟩
  obtain ⟨database, statements, cursors, log⟩ := s
  obtain ⟨database', statements', cursors', log'⟩ := s'
  subst hdatabase
  exact ⟨rfl, rfl, hstatements, hcursors, h _ _ hs⟩

theorem perform {c : Call} {q : c.Answer → List Exchange → Prop} {e : Error → List Exchange → Prop}
    (hok : ∀ u a, p u → q a (u ++ [.call c (.ok a)]))
    (herror : ∀ u f, p u → e (.ofFailure f) (u ++ [.call c (.error f)])) :
    Concur (Alongside p) (d.traced.perform c) (d.traced.perform c) (fun a => Alongside (q a))
      (fun x => Alongside (e x)) := by
  refine Concur.of_same ?_
  have answered (u : List Exchange) (r : Except Failure c.Answer) (hu : p u) :
      Ended q (fun f => e (.ofFailure f)) r (u ++ [.call c r]) := by
    cases r with
    | ok a => exact hok u a hu
    | error f => exact herror u f hu
  refine Abreast.weaken (outcome answered) fun r r' s s' hs => ⟨hs.1, ?_⟩
  cases r <;> exact hs.2

theorem late {c : Call} (h : ∀ u r, p u → q (u ++ [.call c r])) :
    Abreast (Alongside p) (d.traced.perform c).run (d.traced.perform c).run
      fun _ _ => Alongside q :=
  Abreast.weaken (outcome h) fun _ _ _ _ hs => hs.2

end Alongside

/-! ## Readings -/

/-- What is asked and answered is on the trace. -/
def Answers {ρ : Type} {A : ρ → Type} (answer : (r : ρ) → Act (Traced σ) Failure (A r))
    (heard : (r : ρ) → Except Failure (A r) → Exchange) : Prop :=
  ∀ (r : ρ) (p : List Exchange → Prop) (q : Except Failure (A r) → List Exchange → Prop),
    (∀ u a, p u → q a (u ++ [heard r a])) →
      Abreast (Alongside p) (answer r).run (answer r).run (Same fun a => Alongside (q a))

/-- What is kept by each question is kept. -/
theorem Answers.kept {ρ : Type} {A : ρ → Type} {answer : (r : ρ) → Act (Traced σ) Failure (A r)}
    {heard : (r : ρ) → Except Failure (A r) → Exchange} (h : Answers answer heard)
    (hp : ∀ u r a, p u → p (u ++ [heard r a])) (reading : Reading ρ A α) :
    Abreast (Alongside p) (reading.run answer) (reading.run answer)
      (Same fun _ => Alongside p) := by
  induction reading with
  | done a => exact Abreast.same fun _ _ hs => hs
  | ask r next ih =>
      rw [Reading.run_ask]
      exact Abreast.same_bind (h r p (fun _ => p) fun u a hu => hp u r a hu) ih

/-- What passes where a cell is asked for. -/
def CellRead.heard (c : CursorId) : (r : CellRead) → Except Failure r.Answer → Exchange
  | .object index, answer => .call (.getObject c index) answer
  | .binaryStream index, answer => .call (.getBinaryStream c index) answer
  | .characterStream index, answer => .call (.getCharacterStream c index) answer

theorem answers_cell (d : Driver σ) (c : CursorId) :
    Answers (d.traced.answerCell c) (CellRead.heard c) := by
  intro r p q h
  cases r <;> exact Alongside.outcome h

theorem answers_out (d : Driver σ) (i : StatementId) :
    Answers (d.traced.answerOut i) fun r answer => .call (.outValue i r.position r.type) answer :=
  fun _ _ _ h => Alongside.outcome h

end SqlGateway
