import SqlGateway.Database.Scripted.Driver
import SqlGateway.Proofs.Accord.PassOn
import SqlGateway.Proofs.Accord.Watched
import SqlGateway.Proofs.Conduct.Transaction

/-!
# What has failed

What there is to be reported of a trace, and what comes first. A transaction reports what fails
first before its action, what its action reports, or what fails first after that, whatever the
action does.
-/

namespace SqlGateway

variable {σ α : Type} {d : Driver σ} {own : Error → Prop} {u : List Exchange} {x : Exchange}
  {e : Error} {i : StatementId}

/-! ## What has failed -/

namespace Exchange

/-- A call has failed. An optional setting that the driver does not have does not count. -/
def Fails : Exchange → Prop
  | .call c (.error f) => c.isOption = true → f.isUnsupported = false
  | _ => False

/-- What there is to be reported of an exchange. -/
inductive Tells : Exchange → Error → Prop
  | closed : Tells (.probe .isClosed true) (.execution .connectionClosed)
  | failed {c : Call} {f : Failure} : Fails (.call c (.error f)) →
      Tells (.call c (.error f)) (.ofFailure f)
  /-- The value, or the stream, cannot be read as what the caller asked for. -/
  | unreadable {c : CursorId} {r : CellRead} {a : r.Answer} {f : Failure} : r.Refuses a f →
      Tells (r.heard c (.ok a)) (.ofFailure f)

def ReadsOut (i : StatementId) (x : Exchange) : Prop :=
  ∃ position type answer, x = .call (.outValue i position type) answer

end Exchange

def Clean (u : List Exchange) : Prop :=
  ∀ x ∈ u, ¬ x.Fails

/-- The error is what there was to be reported first. -/
def FirstFailure (u : List Exchange) (e : Error) : Prop :=
  ∃ before x after, u = before ++ x :: after ∧ Clean before ∧ x.Tells e

/-- A failed execution is one of the caller's own, or the first failure. -/
def Reports (own : Error → Prop) (e : Error) (u : List Exchange) : Prop :=
  e.IsExecution → own e ∨ FirstFailure u e

/-- The results of the statement have come to their end, and after that only its output values were
asked for. -/
def Exhausted (i : StatementId) (u : List Exchange) : Prop :=
  Clean u ∧ ∃ before reads, u = before ++ .call (.moreResults i) (.ok false) :: reads ∧
    ∀ x ∈ reads, x.ReadsOut i

theorem Clean.append (h : Clean u) (hx : ¬ x.Fails) : Clean (u ++ [x]) :=
  List.forall_mem_append.mpr ⟨h, List.forall_mem_singleton.mpr hx⟩

theorem FirstFailure.append (h : FirstFailure u e) (x : Exchange) : FirstFailure (u ++ [x]) e := by
  obtain ⟨before, y, after, rfl, hbefore, hy⟩ := h
  exact ⟨before, y, after ++ [x], by simp, hbefore, hy⟩

theorem Reports.append (h : Reports own e u) (x : Exchange) : Reports own e (u ++ [x]) :=
  fun he => (h he).imp_right (·.append x)

theorem Clean.reports (h : Clean u) (hx : x.Tells e) : Reports own e (u ++ [x]) :=
  fun _ => .inr ⟨u, x, [], rfl, h, hx⟩

theorem Clean.reports_failed (h : Clean u) {c : Call} (hc : c.isOption = false) (f : Failure) :
    Reports own (.ofFailure f) (u ++ [.call c (.error f)]) :=
  h.reports (.failed fun ho => absurd ho (by simp [hc]))

theorem Exhausted.append (h : Exhausted i u) (hx : ¬ x.Fails) (hout : x.ReadsOut i) :
    Exhausted i (u ++ [x]) := by
  obtain ⟨hclean, before, reads, rfl, hreads⟩ := h
  refine ⟨hclean.append hx, before, reads ++ [x], by simp, ?_⟩
  exact List.forall_mem_append.mpr ⟨hreads, List.forall_mem_singleton.mpr hout⟩

open Database in
/-- An action reads a query to its end. That its statement cannot be closed is not reported. -/
example :
    let act : Act (Traced Scripted) Error Unit := do
      let cursor : ResultCursor Value ← Scripted.driver.traced.executeQuery "select" [] {}
      discard (ExceptT.lift (Scripted.driver.traced.nextRow cursor))
    let s : Session Scripted := {
      database := { faults := [⟨"close_statement", 1, .plain "busy"⟩] } }
    let run := (Scripted.driver.traced.inTransaction none act).run s.watched
    run.1 = .ok () ∧ run.2.trace.any fun
      | .call (.closeStatement _) (.error _) => true
      | _ => false := by
  decide +kernel

end SqlGateway
