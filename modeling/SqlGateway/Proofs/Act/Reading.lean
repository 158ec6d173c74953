import SqlGateway.Proofs.Act.Triple

/-!
# Readings whose answers are fixed

What a reading comes to if every question has one answer, whenever it is asked, and which questions
a reading can ask at all.
-/

namespace SqlGateway

variable {σ ρ ε α β : Type} {A : ρ → Type}

/-- What a reading comes to if every question has one answer. -/
def Reading.eval (answer : (r : ρ) → Except Failure (A r)) : Reading ρ A α → α
  | .done a => a
  | .ask r next => (next (answer r)).eval answer

/-- Whatever the answers are, only questions with `P` are asked. -/
def Reading.Within (P : ρ → Prop) : Reading ρ A α → Prop
  | .done _ => True
  | .ask r next => P r ∧ ∀ answer, (next answer).Within P

namespace Reading

variable {answer : (r : ρ) → Except Failure (A r)} {P Q : ρ → Prop}

/-! ## Outcomes -/

theorem eval_bind (p : Reading ρ A α) (f : α → Reading ρ A β) :
    (p >>= f).eval answer = (f (p.eval answer)).eval answer := by
  induction p with
  | done a => rfl
  | ask r next ih => exact ih (answer r)

theorem eval_bindAct (act : ExceptT ε (Reading ρ A) α) (f : α → ExceptT ε (Reading ρ A) β) :
    (act >>= f).run.eval answer =
      (act.run.eval answer).bind fun a => (f a).run.eval answer := by
  change (act.run >>= ExceptT.bindCont f).eval answer = _
  rw [eval_bind]
  cases act.run.eval answer <;> rfl

theorem eval_mapM (f : α → ExceptT ε (Reading ρ A) β) (as : List α) :
    (as.mapM f).run.eval answer = as.mapM fun a => (f a).run.eval answer := by
  induction as with
  | nil => rfl
  | cons a as ih =>
      rw [List.mapM_cons, List.mapM_cons, eval_bindAct]
      refine congrArg (Except.bind _) (funext fun b => ?_)
      rw [eval_bindAct, ih]
      rfl

/-- Questions that are answered in the same way in all states with `R` have fixed answers. -/
theorem Within.run_eq_eval {R : Session σ → Prop} {ask : (r : ρ) → Act σ Failure (A r)}
    {p : Reading ρ A α} (hp : p.Within P)
    (h : ∀ r, P r → Triple R (ask r).run fun a s => a = answer r ∧ R s) :
    Triple R (p.run ask) fun a s => a = p.eval answer ∧ R s := by
  induction p with
  | done a => exact Triple.pure fun _ hs => ⟨rfl, hs⟩
  | ask r next ih =>
      intro s hs
      obtain ⟨hanswer, hs'⟩ := h r hp.1 s hs
      have hrest := ih (answer r) (hp.2 _) _ hs'
      rw [← hanswer] at hrest
      refine ⟨hrest.1.trans ?_, hrest.2⟩
      rw [hanswer]
      rfl

/-! ## Questions -/

namespace Within

theorem of_forall (h : ∀ r, P r) (p : Reading ρ A α) : p.Within P := by
  induction p with
  | done a => trivial
  | ask r next ih => exact ⟨h r, fun answer => ih answer⟩

theorem mono {p : Reading ρ A α} (h : p.Within P) (hPQ : ∀ r, P r → Q r) : p.Within Q := by
  induction p with
  | done a => trivial
  | ask r next ih => exact ⟨hPQ r h.1, fun answer => ih answer (h.2 answer)⟩

theorem bind {p : Reading ρ A α} {f : α → Reading ρ A β} (h : p.Within P)
    (hf : ∀ a, (f a).Within P) : (p >>= f).Within P := by
  induction p with
  | done a => exact hf a
  | ask r next ih => exact ⟨h.1, fun answer => ih answer (h.2 answer)⟩

theorem bindAct {act : ExceptT ε (Reading ρ A) α} {f : α → ExceptT ε (Reading ρ A) β}
    (h : act.run.Within P) (hf : ∀ a, (f a).run.Within P) : (act >>= f).run.Within P := by
  refine bind h fun r => ?_
  cases r with
  | ok a => exact hf a
  | error e => trivial

theorem map {act : ExceptT ε (Reading ρ A) α} (f : α → β) (h : act.run.Within P) :
    (f <$> act).run.Within P := by
  rw [map_eq_pure_bind]
  exact bindAct h fun _ => trivial

theorem adapt {ε' : Type} {act : ExceptT ε (Reading ρ A) α} (f : ε → ε')
    (h : act.run.Within P) : (ExceptT.adapt f act).run.Within P :=
  bind h fun _ => trivial

theorem mapM {f : α → ExceptT ε (Reading ρ A) β} {as : List α}
    (h : ∀ a ∈ as, (f a).run.Within P) : (as.mapM f).run.Within P := by
  induction as with
  | nil => trivial
  | cons a as ih =>
      rw [List.mapM_cons]
      refine bindAct (h a List.mem_cons_self) fun b => ?_
      exact bindAct (ih fun a ha => h a (List.mem_cons_of_mem _ ha)) fun bs => trivial

end Within

end Reading

end SqlGateway
