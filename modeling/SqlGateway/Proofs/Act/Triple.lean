import SqlGateway.Reading

/-!
# Triples

What holds of a state before an act, and what holds after it. An act that may fail has one
condition for the case that it succeeds and one for the case that it fails.
-/

namespace SqlGateway

variable {τ ε α β : Type} {P P' : τ → Prop}

/-- Every state with `P` is led by the act to a result and a state with `Q`. -/
def Triple (P : τ → Prop) (act : StateM τ α) (Q : α → τ → Prop) : Prop :=
  ∀ s, P s → Q (act s).1 (act s).2

/-- The condition for an outcome: `Q` where it is a success, `E` where it is a failure. -/
def Settled (Q : α → τ → Prop) (E : τ → Prop) : Except ε α → τ → Prop
  | .ok a, s => Q a s
  | .error _, s => E s

/-- Every state with `P` is led to success and `Q`, or to failure and `E`. -/
def Secures (P : τ → Prop) (act : ExceptT ε (StateM τ) α) (Q : α → τ → Prop) (E : τ → Prop) :
    Prop :=
  Triple P act.run (Settled Q E)

/-- The act keeps a condition, whatever its outcome. -/
abbrev Keeps (P : τ → Prop) (act : ExceptT ε (StateM τ) α) : Prop :=
  Secures P act (fun _ => P) P

/-- Every state with `P` is led to `Q` if it is led to success. -/
abbrev Yields (P : τ → Prop) (act : ExceptT ε (StateM τ) α) (Q : α → τ → Prop) : Prop :=
  Secures P act Q fun _ => True

/-! ## Acts that cannot fail -/

namespace Triple

theorem pure {a : α} {Q : α → τ → Prop} (h : ∀ s, P s → Q a s) :
    Triple P (Pure.pure a) Q :=
  h

theorem bind {act : StateM τ α} {f : α → StateM τ β} {Q : α → τ → Prop}
    {R : β → τ → Prop} (h : Triple P act Q) (hf : ∀ a, Triple (Q a) (f a) R) :
    Triple P (act >>= f) R :=
  fun s hs => hf _ _ (h s hs)

theorem weaken {act : StateM τ α} {Q Q' : α → τ → Prop} (h : Triple P act Q)
    (hQ : ∀ a s, Q a s → Q' a s) : Triple P act Q' :=
  fun s hs => hQ _ _ (h s hs)

theorem strengthen {act : StateM τ α} {Q : α → τ → Prop} (h : Triple P act Q)
    (hP : ∀ s, P' s → P s) : Triple P' act Q :=
  fun s hs => h s (hP s hs)

/-- What is known apart from the state may be used from the start. -/
theorem assuming {p : Prop} {act : StateM τ α} {Q : α → τ → Prop} (h : p → Triple P act Q) :
    Triple (fun s => p ∧ P s) act Q :=
  fun s hs => h hs.1 s hs.2

theorem of_run {act : StateM τ α} {Q : α → τ → Prop} (h : Triple P act Q) {s s' : τ}
    {a : α} (hs : P s) (hr : act s = (a, s')) : Q a s' := by
  have := h s hs
  rwa [hr] at this

/-- A reading keeps what each of its questions keeps. -/
theorem reading {σ ρ : Type} {A : ρ → Type} {answer : (r : ρ) → Act σ Failure (A r)}
    {P : Session σ → Prop} (h : ∀ r, Keeps P (answer r)) (p : Reading ρ A α) :
    Triple P (p.run answer) fun _ => P := by
  induction p with
  | done a => exact pure fun _ hs => hs
  | ask r next ih =>
      intro s hs
      have hr : P (answer r s).2 := by
        have := h r s hs
        revert this
        change Settled _ _ (answer r s).1 (answer r s).2 → _
        cases (answer r s).1 <;> exact id
      exact ih _ _ hr

end Triple

/-! ## Acts that may fail -/

namespace Secures

variable {act : ExceptT ε (StateM τ) α} {Q Q' : α → τ → Prop} {E E' : τ → Prop}

theorem pure {a : α} (h : ∀ s, P s → Q a s) :
    Secures P (Pure.pure a : ExceptT ε (StateM τ) α) Q E :=
  h

theorem throw {e : ε} (h : ∀ s, P s → E s) :
    Secures P (MonadExcept.throw e : ExceptT ε (StateM τ) α) Q E :=
  h

theorem bind {f : α → ExceptT ε (StateM τ) β} {R : β → τ → Prop} (h : Secures P act Q E)
    (hf : ∀ a, Secures (Q a) (f a) R E) : Secures P (act >>= f) R E := by
  change Triple P (act.run >>= ExceptT.bindCont f) _
  refine Triple.bind h fun r => ?_
  cases r with
  | ok a => exact hf a
  | error e => exact fun _ hs => hs

theorem map {f : α → β} {R : β → τ → Prop} (h : Secures P act Q E)
    (hf : ∀ a s, Q a s → R (f a) s) : Secures P (f <$> act) R E := by
  rw [map_eq_pure_bind]
  exact bind h fun a => pure (hf a)

theorem weaken (h : Secures P act Q E) (hQ : ∀ a s, Q a s → Q' a s) (hE : ∀ s, E s → E' s) :
    Secures P act Q' E' := by
  refine Triple.weaken h fun r s => ?_
  cases r with
  | ok a => exact hQ a s
  | error e => exact hE s

theorem yields (h : Secures P act Q E) : Yields P act Q :=
  weaken h (fun _ _ hs => hs) fun _ _ => trivial

theorem strengthen (h : Secures P act Q E) (hP : ∀ s, P' s → P s) : Secures P' act Q E :=
  Triple.strengthen h hP

theorem assuming {p : Prop} (h : p → Secures P act Q E) :
    Secures (fun s => p ∧ P s) act Q E :=
  Triple.assuming h

/-- What is shown apart holds together. -/
theorem and (h : Secures P act Q E) (h' : Secures P act Q' E') :
    Secures P act (fun a s => Q a s ∧ Q' a s) fun s => E s ∧ E' s := by
  intro s hs
  have hr := h s hs
  have hr' := h' s hs
  revert hr hr'
  cases (act.run s).1 <;> exact And.intro

theorem along (h : Secures P act Q E) (h' : Secures P' act Q' E') :
    Secures (fun s => P s ∧ P' s) act (fun a s => Q a s ∧ Q' a s) fun s => E s ∧ E' s :=
  and (strengthen h fun _ hs => hs.1) (strengthen h' fun _ hs => hs.2)

/-- What holds after a success holds in any case of an act that cannot fail. -/
theorem unfailing (h : Secures P act Q fun _ => True)
    (h' : Secures P' act Q' fun _ => False) :
    Secures (fun s => P s ∧ P' s) act (fun a s => Q a s ∧ Q' a s) E :=
  weaken (along h h') (fun _ _ hs => hs) fun _ hs => hs.2.elim

theorem lift {act : StateM τ α} (h : Triple P act Q) :
    Secures P (ExceptT.lift act : ExceptT ε (StateM τ) α) Q E :=
  fun s hs => h s hs

/-- An act whose outcome is looked at before it is passed on. -/
theorem lift_run {ε' : Type} {f : Except ε α → ExceptT ε' (StateM τ) β} {R : β → τ → Prop}
    (h : Secures P act Q E) (hok : ∀ a, Secures (Q a) (f (.ok a)) R E')
    (herror : ∀ e, Secures E (f (.error e)) R E') :
    Secures P (ExceptT.lift act.run >>= f) R E' := by
  refine bind (Q := Settled Q E) (lift h) fun r => ?_
  cases r with
  | ok a => exact hok a
  | error e => exact herror e

theorem ofExcept {r : Except ε α} (hok : ∀ a, r = .ok a → ∀ s, P s → Q a s)
    (herror : ∀ e, r = .error e → ∀ s, P s → E s) :
    Secures P (MonadExcept.ofExcept r : ExceptT ε (StateM τ) α) Q E := by
  cases r with
  | ok a => exact pure (hok a rfl)
  | error e => exact throw (herror e rfl)

theorem getState {Q : τ → τ → Prop} (h : ∀ s, P s → Q s s) :
    Secures P (get : ExceptT ε (StateM τ) τ) Q E :=
  h

theorem modifyState {f : τ → τ} {Q : PUnit → τ → Prop} (h : ∀ s, P s → Q ⟨⟩ (f s)) :
    Secures P (modify f : ExceptT ε (StateM τ) PUnit) Q E :=
  h

theorem surfaced {σ : Type} {P : Session σ → Prop} {act : Act σ Failure α}
    {Q : α → Session σ → Prop} {E : Session σ → Prop} (h : Secures P act Q E) :
    Secures P (surfaced act) Q E := by
  intro s hs
  have hr := h s hs
  revert hr
  change _ → Settled Q E ((act.run s).1.mapError Error.ofFailure) (act.run s).2
  cases (act.run s).1 <;> exact id

theorem discarded {σ : Type} {P Q : Session σ → Prop} {act : Act σ Failure α}
    {E : Session σ → Prop} (h : Secures P act (fun _ => Q) E) :
    Secures P (discard (SqlGateway.surfaced act)) (fun _ => Q) E :=
  map h.surfaced fun _ _ hs => hs

end Secures

namespace Keeps

theorem pure {a : α} : Keeps P (Pure.pure a : ExceptT ε (StateM τ) α) :=
  Secures.pure fun _ hs => hs

theorem throw {e : ε} : Keeps P (MonadExcept.throw e : ExceptT ε (StateM τ) α) :=
  Secures.throw fun _ hs => hs

theorem ofExcept {r : Except ε α} :
    Keeps P (MonadExcept.ofExcept r : ExceptT ε (StateM τ) α) :=
  Secures.ofExcept (fun _ _ _ hs => hs) fun _ _ _ hs => hs

theorem map {act : ExceptT ε (StateM τ) α} {f : α → β} (h : Keeps P act) :
    Keeps P (f <$> act) :=
  Secures.map h fun _ _ hs => hs

theorem mapM {f : α → ExceptT ε (StateM τ) β} (h : ∀ a, Keeps P (f a)) (as : List α) :
    Keeps P (as.mapM f) := by
  induction as with
  | nil => exact pure
  | cons a as ih =>
      rw [List.mapM_cons]
      refine Secures.bind (h a) fun b => ?_
      exact Secures.bind ih fun bs => pure

theorem forM {f : α → ExceptT ε (StateM τ) PUnit} (h : ∀ a, Keeps P (f a)) (o : Option α) :
    Keeps P (ForM.forM o f) := by
  cases o with
  | none => exact pure
  | some a => exact h a

end Keeps

/-! ## Acts whose outcome is of no account -/

namespace Secures

variable {Q : τ → Prop} {act : ExceptT ε (StateM τ) α}

theorem run (h : Secures P act (fun _ => Q) Q) : Triple P act.run fun _ => Q := by
  refine Triple.weaken h fun r s hs => ?_
  cases r <;> exact hs

theorem of_run (h : Triple P act.run fun _ => Q) : Secures P act (fun _ => Q) Q := by
  refine Triple.weaken h fun r s hs => ?_
  cases r <;> exact hs

/-- An act whose failure is only worth a warning, where logging is of no account. -/
theorem orWarn {σ : Type} {act : Act σ Failure Unit} {P Q : Session σ → Prop} {what : String}
    (hlog : ∀ s l, Q s → Q { s with log := l }) (h : Secures P act (fun _ => Q) Q) :
    Triple P (orWarn act what) fun _ => Q := by
  refine Triple.bind h fun r => ?_
  cases r with
  | ok a => exact fun _ hs => hs
  | error f => exact fun s hs => hlog s _ hs

end Secures

/-! ## Runs from one state -/

section

variable {f : α → ExceptT ε (StateM τ) β} {s s' : τ}

theorem bind_of_run {act : StateM τ α} {f : α → StateM τ β} {a : α} (h : act s = (a, s')) :
    (act >>= f) s = f a s' := by
  change f (act s).1 (act s).2 = _
  rw [h]

theorem run_bind_of_ok {act : ExceptT ε (StateM τ) α} {a : α} (h : act.run s = (.ok a, s')) :
    (act >>= f).run s = (f a).run s' := by
  change ExceptT.bindCont f (act.run s).1 (act.run s).2 = _
  rw [h]
  rfl

theorem run_bind_of_error {act : ExceptT ε (StateM τ) α} {e : ε}
    (h : act.run s = (.error e, s')) : (act >>= f).run s = (.error e, s') := by
  change ExceptT.bindCont f (act.run s).1 (act.run s).2 = _
  rw [h]
  rfl

theorem run_lift {act : StateM τ α} {a : α} (h : act s = (a, s')) :
    (ExceptT.lift act : ExceptT ε (StateM τ) α).run s = (.ok a, s') := by
  change ((Except.ok (act s).1, (act s).2) : Except ε α × τ) = _
  rw [h]

/-- What cannot fail succeeds. -/
theorem Secures.exists_run {P : τ → Prop} {act : ExceptT ε (StateM τ) α} {Q : α → τ → Prop}
    (h : Secures P act Q fun _ => False) (hs : P s) :
    ∃ a s', act.run s = (.ok a, s') ∧ Q a s' := by
  have hr := h s hs
  generalize act.run s = result at hr
  obtain ⟨r, s'⟩ := result
  cases r with
  | ok a => exact ⟨a, s', rfl, hr⟩
  | error e => exact hr.elim

end

/-! ## Calls -/

section

variable {σ : Type} (d : Driver σ) {P E : Session σ → Prop}

theorem Driver.perform_run {d : Driver σ} {c : Call} {s : Session σ} {r : Except Failure c.Answer}
    {database : σ} (h : d.call c s.database = (r, database)) :
    (d.perform c).run s = (r, { s with database }) := by
  change ((d.call c s.database).1, { s with database := (d.call c s.database).2 }) = _
  rw [h]

theorem Driver.ask_triple {p : Probe} {Q : Bool → Session σ → Prop}
    (h : ∀ s answer database, d.probe p s.database = (answer, database) → P s →
      Q answer { s with database }) : Triple P (d.ask p) Q :=
  fun s hs => h s _ _ rfl hs

theorem Driver.perform_secures {c : Call} {Q : c.Answer → Session σ → Prop}
    (hok : ∀ s answer database, d.call c s.database = (.ok answer, database) → P s →
      Q answer { s with database })
    (herror : ∀ s f database, d.call c s.database = (.error f, database) → P s →
      E { s with database }) : Secures P (d.perform c) Q E := by
  intro s hs
  change Settled Q E (d.call c s.database).1 { s with database := (d.call c s.database).2 }
  generalize hcall : d.call c s.database = r
  obtain ⟨answer, database⟩ := r
  cases answer with
  | ok answer => exact hok s answer database hcall hs
  | error f => exact herror s f database hcall hs

end

/-! ## Two acts, whatever becomes of the first -/

namespace Secures

variable {M R : Bool → τ → Prop}

/-- The second act is done also where the first has failed. `M` and `R` are told whether everything
has succeeded so far. -/
theorem both {first : ExceptT ε (StateM τ) α} {second : ExceptT ε (StateM τ) PUnit} {f : α → β}
    (hfirst : Secures P first (fun _ => M true) (M false))
    (hsecond : ∀ ok, Secures (M ok) second (fun _ => R ok) (R false)) :
    Secures P (do
      let a ← ExceptT.lift first.run
      let c ← ExceptT.lift second.run
      let a ← MonadExcept.ofExcept a
      MonadExcept.ofExcept c
      return f a : ExceptT ε (StateM τ) β) (fun _ => R true) (R false) := by
  have later (a : Except ε α) :
      Secures (M a.toBool) (do
        let c ← ExceptT.lift second.run
        let a ← MonadExcept.ofExcept a
        MonadExcept.ofExcept c
        return f a : ExceptT ε (StateM τ) β) (fun _ => R true) (R false) := by
    cases a with
    | error e =>
        exact lift_run (Q := fun _ => R false) (weaken (hsecond false) (fun _ _ hs => hs)
          fun _ hs => hs) (fun c => throw fun _ hs => hs) fun e => throw fun _ hs => hs
    | ok a =>
        exact lift_run (hsecond true) (fun c => pure fun _ hs => hs) fun e => throw fun _ hs => hs
  exact lift_run hfirst (fun a => later (.ok a)) fun e => later (.error e)

end Secures

end SqlGateway
