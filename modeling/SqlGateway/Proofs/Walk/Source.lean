import SqlGateway.Proofs.Act.Run
import SqlGateway.Proofs.Walk.Delivery

/-!
# Where cursors come from

A result cursor comes from a query or from a procedure call. Up to and with the execution of the
statement that is the same act as one that stops there, and what is left for the cursor to deliver
is what that execution has brought.
-/

namespace SqlGateway

open Database

variable {σ τ κ : Type} {d : Driver σ}

/-- What brings a result cursor. -/
inductive Source (τ : Type) where
  | query (sql : String) (values : List Value)
  | call (sql : String) (params : List Parameter) (handler : Option (OutMapper τ))

namespace Driver

variable (d : Driver σ) (options : Options)

def openSource : Source τ → Act σ Error (ResultCursor τ)
  | .query sql values => d.executeQuery sql values options
  | .call sql params handler => d.executeCall sql params options handler

/-- What is done up to and with the execution of the statement, which answers whether its first
result is a set of rows. -/
def executeSource : Source τ → Act σ Error (StatementId × Bool)
  | .query sql values => do
    ExceptT.lift (Session.debug s!"Executing query: {Sql.render sql values}")
    let (onResult, guard) ← d.runStatement sql .select .none (d.applyOptions · options) fun i => do
      surfaced (d.bindValues i values)
      surfaced (d.perform (.execute i))
    return (guard.statement, onResult)
  | .call sql params _ => do
    let ((_, onResult), guard) ← d.executeCallStatement sql params options
    return (guard.statement, onResult)

/-- Opens the first result of a statement, if that is a set of rows. -/
def openResult (i : StatementId) (onResult : Bool) : Act σ Failure (Option CursorId) :=
  if onResult then d.openCursor i else return none

end Driver

/-! ## Cursors -/

theorem executeRows_eq (i : StatementId) (values : List Value) :
    surfaced (d.executeRows i values) = (do
      surfaced (d.bindValues i values)
      surfaced (d.perform (.execute i))) >>= fun onResult =>
        surfaced (d.openResult i onResult) := by
  unfold Driver.executeRows
  rw [surfaced_bind, bind_assoc]
  refine congrArg _ (funext fun _ => ?_)
  rw [surfaced_bind]
  rfl

theorem opened_of_query {sql : String} {values : List Value} {options : Options}
    {cursor : ResultCursor τ} {s s' : Session σ}
    (h : (d.executeQuery sql values options).run s = (.ok cursor, s')) :
    ∃ i onResult s₁,
      (d.executeSource options (.query sql values : Source τ)).run s = (.ok (i, onResult), s₁) ∧
      (d.openResult i onResult).run s₁ = (.ok cursor.current, s') ∧
      cursor.On i ∧ cursor.row = none := by
  obtain ⟨_, s₁, hdebug, hleft⟩ := exists_of_run_bind h
  obtain ⟨⟨current, guard⟩, s₂, hrun, hmade⟩ := exists_of_run_bind hleft
  obtain ⟨i, s₃, hrelease, hcursor⟩ := exists_of_run_bind hmade
  obtain ⟨rfl, rfl⟩ := releaseGuard_run hrelease
  cases hcursor
  simp only [executeRows_eq] at hrun
  obtain ⟨onResult, s₄, hfirst, hopen⟩ := exists_of_runStatement hrun
  refine ⟨guard.statement, onResult, s₄, ?_, run_of_surfaced hopen,
    ResultCursor.on_ofStatement _ _, rfl⟩
  unfold Driver.executeSource
  rw [run_bind_of_ok hdebug]
  exact run_bind_of_ok hfirst

theorem openCallRows_run {i : StatementId} {onResult : Bool} {current : Option CursorId}
    {s s' : Session σ} (h : (d.openCallRows i onResult).run s = (.ok current, s')) :
    (d.openResult i onResult).run s = (.ok current, s') := by
  unfold Driver.openCallRows at h
  cases onResult with
  | false =>
      cases h
      rfl
  | true =>
      obtain ⟨r, s₁, hr, h⟩ := exists_of_run_bind h
      cases r with
      | ok current' =>
          cases h
          exact run_of_lift hr
      | error f =>
          obtain ⟨_, s₂, -, h⟩ := exists_of_run_bind h
          cases h

theorem opened_of_call {sql : String} {params : List Parameter} {options : Options}
    {handler : Option (OutMapper τ)} {cursor : ResultCursor τ} {s s' : Session σ}
    (h : (d.executeCall sql params options handler).run s = (.ok cursor, s')) :
    ∃ i onResult s₁,
      (d.executeSource options (.call sql params handler)).run s = (.ok (i, onResult), s₁) ∧
      (d.openResult i onResult).run s₁ = (.ok cursor.current, s') ∧
      cursor.On i ∧ cursor.row = none := by
  obtain ⟨⟨⟨slots, onResult⟩, guard⟩, s₁, hrun, hleft⟩ := exists_of_run_bind h
  obtain ⟨i, s₂, hrelease, hmade⟩ := exists_of_run_bind hleft
  obtain ⟨rfl, rfl⟩ := releaseGuard_run hrelease
  obtain ⟨current, s₃, hopen, hcursor⟩ := exists_of_run_bind hmade
  cases hcursor
  refine ⟨guard.statement, onResult, s₂, ?_, openCallRows_run hopen,
    (ResultCursor.on_ofStatement _ _).withHandler _ _, rfl⟩
  exact run_bind_of_ok hrun

/-- A result cursor that was brought holds a statement that was executed, and has opened the first
result, if that is a set of rows, and described no row. -/
theorem opened_of_openSource {options : Options} {source : Source τ} {cursor : ResultCursor τ}
    {s s' : Session σ} (h : (d.openSource options source).run s = (.ok cursor, s')) :
    ∃ i onResult s₁, (d.executeSource options source).run s = (.ok (i, onResult), s₁) ∧
      (d.openResult i onResult).run s₁ = (.ok cursor.current, s') ∧
      cursor.On i ∧ cursor.row = none := by
  cases source with
  | query sql values => exact opened_of_query h
  | call sql params handler => exact opened_of_call h

/-- What a cursor has to deliver at first is all that the execution has brought. -/
theorem left_of_openResult {view : ResultView d κ} {i : StatementId} {onResult : Bool}
    {current : Option CursorId} {s s' : Session σ}
    (h : (d.openResult i onResult).run s = (.ok current, s')) :
    view.left s'.database i current = rowsOf (view.produced s.database i onResult) := by
  cases onResult with
  | false =>
      cases h
      rfl
  | true =>
      obtain ⟨c, opened, hcall, rfl⟩ := call_of_openCursor h
      exact (ResultView.left_of_resultCursor hcall).symm

end SqlGateway
