import SqlGateway.Cursor.Result
import SqlGateway.Proofs.Act.Execution

/-!
# Conduct

How an act conducts itself towards a driver: what it asks for with its calls, what holds while it
goes on, and what holds once it has come to an error. The errors are those that a driver's failures
become, and those that the caller's own readings come to.
-/

namespace SqlGateway

/-! ## Acts and their errors -/

section

variable {τ ε α β : Type} {P P' : τ → Prop}

/-- The condition for an outcome: `Q` where it is a success, `E` where it is an error. -/
def Ended (Q : α → τ → Prop) (E : ε → τ → Prop) : Except ε α → τ → Prop
  | .ok a, s => Q a s
  | .error e, s => E e s

/-- Every state with `P` is led to success and `Q`, or to an error `e` and `E e`. -/
def Meets (P : τ → Prop) (act : ExceptT ε (StateM τ) α) (Q : α → τ → Prop) (E : ε → τ → Prop) :
    Prop :=
  Triple P act.run (Ended Q E)

namespace Meets

variable {act : ExceptT ε (StateM τ) α} {Q Q' : α → τ → Prop} {E E' : ε → τ → Prop}

theorem of_secures {F : τ → Prop} (h : Secures P act Q F) (hF : ∀ e s, F s → E e s) :
    Meets P act Q E := by
  refine Triple.weaken h fun r s => ?_
  cases r with
  | ok a => exact id
  | error e => exact hF e s

theorem pure {a : α} (h : ∀ s, P s → Q a s) :
    Meets P (Pure.pure a : ExceptT ε (StateM τ) α) Q E :=
  h

theorem throw {e : ε} (h : ∀ s, P s → E e s) :
    Meets P (MonadExcept.throw e : ExceptT ε (StateM τ) α) Q E :=
  h

theorem bind {f : α → ExceptT ε (StateM τ) β} {R : β → τ → Prop} (h : Meets P act Q E)
    (hf : ∀ a, Meets (Q a) (f a) R E) : Meets P (act >>= f) R E := by
  change Triple P (act.run >>= ExceptT.bindCont f) _
  refine Triple.bind h fun r => ?_
  cases r with
  | ok a => exact hf a
  | error e => exact fun _ hs => hs

theorem map {f : α → β} {R : β → τ → Prop} (h : Meets P act Q E)
    (hf : ∀ a s, Q a s → R (f a) s) : Meets P (f <$> act) R E := by
  rw [map_eq_pure_bind]
  exact bind h fun a => pure (hf a)

theorem weaken (h : Meets P act Q E) (hQ : ∀ a s, Q a s → Q' a s) (hE : ∀ e s, E e s → E' e s) :
    Meets P act Q' E' := by
  refine Triple.weaken h fun r s => ?_
  cases r with
  | ok a => exact hQ a s
  | error e => exact hE e s

theorem strengthen (h : Meets P act Q E) (hP : ∀ s, P' s → P s) : Meets P' act Q E :=
  Triple.strengthen h hP

theorem assuming {p : Prop} (h : p → Meets P act Q E) : Meets (fun s => p ∧ P s) act Q E :=
  Triple.assuming h

theorem lift {act : StateM τ α} (h : Triple P act Q) :
    Meets P (ExceptT.lift act : ExceptT ε (StateM τ) α) Q E :=
  fun s hs => h s hs

/-- An act whose outcome is looked at before it is passed on. -/
theorem lift_run {ε' : Type} {E' : ε' → τ → Prop} {f : Except ε α → ExceptT ε' (StateM τ) β}
    {R : β → τ → Prop} (h : Meets P act Q E) (hok : ∀ a, Meets (Q a) (f (.ok a)) R E')
    (herror : ∀ e, Meets (E e) (f (.error e)) R E') :
    Meets P (ExceptT.lift act.run >>= f) R E' := by
  refine bind (lift h) fun r => ?_
  cases r with
  | ok a => exact hok a
  | error e => exact herror e

theorem getState {Q : τ → τ → Prop} (h : ∀ s, P s → Q s s) :
    Meets P (get : ExceptT ε (StateM τ) τ) Q E :=
  h

theorem modifyState {f : τ → τ} {Q : PUnit → τ → Prop} (h : ∀ s, P s → Q ⟨⟩ (f s)) :
    Meets P (modify f : ExceptT ε (StateM τ) PUnit) Q E :=
  h

theorem forM {f : α → ExceptT ε (StateM τ) PUnit} (h : ∀ a, Meets P (f a) (fun _ => P) E)
    (o : Option α) : Meets P (ForM.forM o f) (fun _ => P) E := by
  cases o with
  | none => exact pure fun _ hs => hs
  | some a => exact h a

/-- The second act is done also where the first has failed; the first error is reported. -/
theorem both {first : ExceptT ε (StateM τ) α} {second : ExceptT ε (StateM τ) PUnit} {f : α → β}
    {Q : β → τ → Prop} (hfirst : Meets P' first (fun _ => P) E)
    (hsecond : Meets P second (fun _ => P) E)
    (hlate : ∀ e, Triple (E e) second.run fun _ => E e) (hQ : ∀ a s, P s → Q (f a) s) :
    Meets P' (do
      let a ← ExceptT.lift first.run
      let c ← ExceptT.lift second.run
      let a ← MonadExcept.ofExcept a
      MonadExcept.ofExcept c
      return f a : ExceptT ε (StateM τ) β) Q E := by
  refine lift_run hfirst (fun a => ?_) fun e => ?_
  · exact lift_run hsecond (fun _ => pure (hQ a)) fun e => throw fun _ hs => hs
  · exact bind (lift (hlate e)) fun _ => throw fun _ hs => hs

theorem surfaced {σ : Type} {P : Session σ → Prop} {act : Act σ Failure α}
    {Q : α → Session σ → Prop} {E : Error → Session σ → Prop}
    (h : Meets P act Q fun f => E (.ofFailure f)) : Meets P (surfaced act) Q E := by
  intro s hs
  have hr := h s hs
  revert hr
  change _ → Ended Q E ((act.run s).1.mapError Error.ofFailure) (act.run s).2
  cases (act.run s).1 <;> exact id

end Meets

end

/-! ## What is asked of a driver -/

/-- What a driver is asked to do with one statement. A row has for each position the value that is
passed in there, if any. -/
structure Request where
  sql : String
  kind : StatementKind
  keyed : Bool
  rows : List (List (Option Value))

/-- A call that is made for a request, or one that neither prepares a statement nor passes a value.
Where there is no request, there are only calls of the second kind. -/
def Call.Serves (q : Option Request) : Call → Prop
  | .prepare _ sql kind keys =>
    ∃ r ∈ q, sql = r.sql ∧ kind = r.kind ∧ keys.isRequested = r.keyed
  | .bind _ position value =>
    ∃ r ∈ q, ∃ row ∈ r.rows, ∃ k, position = k + 1 ∧ row[k]? = some (some value)
  | _ => True

theorem Call.serves_of_worksOn {q : Option Request} {c : Call} {k : CursorId}
    (hc : c.WorksOn (.cursor k)) : c.Serves q := by
  obtain ⟨hh, -⟩ := hc
  cases c <;> first | trivial | cases hh

theorem Call.serves_of_isTransactional {q : Option Request} {c : Call}
    (hc : c.isTransactional = true) : c.Serves q := by
  cases c <;> trivial

variable {σ τ α β : Type} {d : Driver σ} {q : Option Request} {P : Session σ → Prop}
  {E : Error → Session σ → Prop} {R : CursorId → Session σ → Prop}
  {V : StatementId → Session σ → Prop}

/-- Nothing that serves the request touches the condition. -/
structure Upheld (d : Driver σ) (q : Option Request) (P : Session σ → Prop) : Prop where
  log (s : Session σ) (l : List LogEntry) : P s → P { s with log := l }
  count (s : Session σ) (n m : Nat) : P s → P { s with statements := n, cursors := m }
  ask (p : Probe) : Triple P (d.ask p) fun _ => P
  call (c : Call) : c.Serves q → Keeps P (d.perform c)

/-- `P` holds as long as only the request is served, and `E e` as well once `e` has come up. `R c`
holds where the cursor has come to a row, and `V i` where the statement has its output values. -/
structure Conduct (d : Driver σ) (q : Option Request) (P : Session σ → Prop)
    (E : Error → Session σ → Prop) (R : CursorId → Session σ → Prop)
    (V : StatementId → Session σ → Prop) : Prop where
  going : Upheld d q P
  failed (e : Error) : Upheld d q (E e)
  execution (reason : ExecutionFailure) (s : Session σ) : P s → E (.execution reason) s
  going_of_failed (e : Error) (s : Session σ) : E e s → P s
  reached (c : CursorId) :
    Secures P (d.perform (.next c)) (fun moved s => P s ∧ (moved = true → R c s)) P
  described (c : CursorId) : Keeps (R c) (d.perform (.columns c))
  going_of_reached (c : CursorId) (s : Session σ) : R c s → P s
  executed (i : StatementId) : Secures P (d.perform (.execute i)) (fun _ => V i) P
  exhausted (i : StatementId) :
    Secures P (d.perform (.moreResults i)) (fun more s => P s ∧ (more = false → V i s)) P
  going_of_executed (i : StatementId) (s : Session σ) : V i s → P s

/-- What the mapper makes of a row that was reached keeps to the conduct. -/
def Minds (d : Driver σ) (P : Session σ → Prop) (E : Error → Session σ → Prop)
    (R : CursorId → Session σ → Prop) (mapper : RowMapper α) : Prop :=
  ∀ c row, Meets (R c) (d.readRow c (mapper row)) (fun _ => P) E

/-- So does what the mapper makes of output values. -/
def MindsOut (d : Driver σ) (P : Session σ → Prop) (E : Error → Session σ → Prop)
    (V : StatementId → Session σ → Prop) (mapper : OutMapper α) : Prop :=
  ∀ i slots, Meets (V i) (d.readOut i (mapper slots)) (fun _ => P) E

namespace Upheld

variable (h : Upheld d q P)
include h

theorem debug (text : String) : Triple P (Session.debug text) fun _ => P :=
  Keeps.debug h.log text

theorem prepare {sql : String} {kind : StatementKind} {keys : GeneratedKeys}
    (hc : ∀ i, Call.Serves q (.prepare i sql kind keys)) : Keeps P (d.prepare sql kind keys) :=
  Keeps.prepare h.count fun i => h.call _ (hc i)

theorem openCursor (i : StatementId) : Keeps P (d.openCursor i) :=
  Keeps.openCursor h.count fun _ => h.call _ trivial

theorem openKeys (i : StatementId) : Keeps P (d.openKeys i) :=
  Keeps.openKeys h.count fun _ => h.call _ trivial

theorem closeStatementWarned (i : StatementId) (what : String) :
    Triple P (orWarn (d.perform (.closeStatement i)) what) fun _ => P :=
  Secures.orWarn h.log (h.call (.closeStatement i) trivial)

end Upheld

namespace Conduct

variable (h : Conduct d q P E R V)
include h

theorem ofFailure (f : Failure) (s : Session σ) (hs : P s) : E (.ofFailure f) s :=
  h.execution _ s hs

theorem surfaced {act : Act σ Failure α} {Q : α → Session σ → Prop} (hact : Secures P act Q P) :
    Meets P (SqlGateway.surfaced act) Q E :=
  Meets.surfaced (Meets.of_secures hact h.ofFailure)

theorem perform {c : Call} (hc : c.Serves q) :
    Meets P (SqlGateway.surfaced (d.perform c)) (fun _ => P) E :=
  h.surfaced (h.going.call c hc)

/-- A call that is also made once an error has come up. -/
theorem late {c : Call} (hc : c.Serves q) (e : Error) :
    Triple (E e) (SqlGateway.surfaced (d.perform c)).run fun _ => E e :=
  ((h.failed e).call c hc).surfaced.run

theorem failing {act : Act σ Failure α} (hact : Keeps P act) :
    Meets P act (fun _ => P) fun f => E (.ofFailure f) :=
  Meets.weaken (Meets.of_secures hact fun _ _ hs => hs) (fun _ _ hs => hs) h.ofFailure

end Conduct

end SqlGateway
