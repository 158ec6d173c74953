import SqlGateway.Proofs.Conduct.Traced

/-!
# Acts in accord

The same act is carried out twice, on two drivers and in two sessions that are related. What a
caller is told in the end is the same in both, and the phases that the sessions are in tell what
holds of the two of them on the way.
-/

namespace SqlGateway

/-! ## Outcomes that tell the same -/

/-- What a caller is told of an error. -/
class Reported (ε : Type) where
  error : ε → Error

instance : Reported Error := ⟨id⟩

instance : Reported Failure := ⟨Error.ofFailure⟩

section

variable {τ τ' ε ε' α α' β β' : Type} [Reported ε] [Reported ε'] {P P' : τ → τ' → Prop}

/-- A caller cannot tell the outcomes apart. -/
def Likewise : Except ε α → Except ε α → Prop
  | .ok a, .ok a' => a = a'
  | .error e, .error e' => Reported.error e = Reported.error e'
  | _, _ => False

theorem Likewise.refl (r : Except ε α) : Likewise r r := by
  cases r <;> rfl

/-- The condition for an outcome: `Q` where it is a success, `E` where it is an error, by what is
told of that. -/
def Ends (Q : α → τ → τ' → Prop) (E : Error → τ → τ' → Prop) : Except ε α → τ → τ' → Prop
  | .ok a => Q a
  | .error e => E (Reported.error e)

/-- From states with `P` two acts lead to results and states with `Q`. -/
def Abreast (P : τ → τ' → Prop) (act : StateM τ α) (act' : StateM τ' α')
    (Q : α → α' → τ → τ' → Prop) : Prop :=
  ∀ s s', P s s' → Q (act s).1 (act' s').1 (act s).2 (act' s').2

/-- The result is the same, and `Q` says what holds of the states with it. -/
def Same (Q : α → τ → τ' → Prop) (a a' : α) (s : τ) (s' : τ') : Prop :=
  a = a' ∧ Q a s s'

/-- From states with `P` two acts both succeed with the same value, or both come to what is told as
the same error. -/
def Concur (P : τ → τ' → Prop) (act : ExceptT ε (StateM τ) α) (act' : ExceptT ε (StateM τ') α)
    (Q : α → τ → τ' → Prop) (E : Error → τ → τ' → Prop) : Prop :=
  Abreast P act.run act'.run fun r r' s s' => Likewise r r' ∧ Ends Q E r s s'

/-! ## Acts that cannot fail -/

namespace Abreast

variable {act : StateM τ α} {act' : StateM τ' α'} {Q Q' : α → α' → τ → τ' → Prop}

theorem pure {a : α} {a' : α'} (h : ∀ s s', P s s' → Q a a' s s') :
    Abreast P (Pure.pure a) (Pure.pure a') Q :=
  h

theorem bind {f : α → StateM τ β} {f' : α' → StateM τ' β'} {R : β → β' → τ → τ' → Prop}
    (h : Abreast P act act' Q) (hf : ∀ a a', Abreast (Q a a') (f a) (f' a') R) :
    Abreast P (act >>= f) (act' >>= f') R :=
  fun s s' hs => hf _ _ _ _ (h s s' hs)

theorem weaken (h : Abreast P act act' Q) (hQ : ∀ a a' s s', Q a a' s s' → Q' a a' s s') :
    Abreast P act act' Q' :=
  fun s s' hs => hQ _ _ _ _ (h s s' hs)

theorem strengthen (h : Abreast P act act' Q) (hP : ∀ s s', P' s s' → P s s') :
    Abreast P' act act' Q :=
  fun s s' hs => h s s' (hP s s' hs)

/-- What is known apart from the states may be used from the start. -/
theorem assuming {p : Prop} (h : p → Abreast P act act' Q) :
    Abreast (fun s s' => p ∧ P s s') act act' Q :=
  fun s s' hs => h hs.1 s s' hs.2

theorem of_run (h : Abreast P act act' Q) {s s₁ : τ} {s' s₁' : τ'} {a : α} {a' : α'}
    (hs : P s s') (hr : act s = (a, s₁)) (hr' : act' s' = (a', s₁')) : Q a a' s₁ s₁' := by
  have := h s s' hs
  rwa [hr, hr'] at this

theorem same {a : α} {Q : α → τ → τ' → Prop} (h : ∀ s s', P s s' → Q a s s') :
    Abreast P (Pure.pure a) (Pure.pure a) (Same Q) :=
  fun s s' hs => ⟨rfl, h s s' hs⟩

theorem of_same {act : StateM τ α} {act' : StateM τ' α} {Q : α → τ → τ' → Prop}
    (h : Abreast P act act' (Same Q)) {s s₁ : τ} {s' : τ'} {a : α} (hs : P s s')
    (hr : act s = (a, s₁)) : ∃ s₁', act' s' = (a, s₁') ∧ Q a s₁ s₁' := by
  generalize hr' : act' s' = result
  obtain ⟨a', s₁'⟩ := result
  obtain ⟨rfl, hs⟩ := h.of_run hs hr hr'
  exact ⟨s₁', rfl, hs⟩

/-- What is known of the result in any case. -/
theorem knowing {act : StateM τ α} {act' : StateM τ' α} {Q : α → τ → τ' → Prop} {R : α → Prop}
    (h : Abreast P act act' (Same Q)) (hR : ∀ s, R (act s).1) :
    Abreast P act act' (Same fun a s s' => R a ∧ Q a s s') :=
  fun s s' hs => ⟨(h s s' hs).1, hR s, (h s s' hs).2⟩

theorem same_bind {act : StateM τ α} {act' : StateM τ' α} {Q : α → τ → τ' → Prop}
    {f : α → StateM τ β} {f' : α → StateM τ' β'} {R : β → β' → τ → τ' → Prop}
    (h : Abreast P act act' (Same Q)) (hf : ∀ a, Abreast (Q a) (f a) (f' a) R) :
    Abreast P (act >>= f) (act' >>= f') R := by
  refine bind h fun a a' => assuming fun ha => ?_
  subst ha
  exact hf a

end Abreast

/-! ## Acts that may fail -/

namespace Concur

variable {act : ExceptT ε (StateM τ) α} {act' : ExceptT ε (StateM τ') α}
  {Q Q' : α → τ → τ' → Prop} {E E' : Error → τ → τ' → Prop}

/-- The outcome is even the same. -/
theorem of_same (h : Abreast P act.run act'.run (Same (Ends Q E))) : Concur P act act' Q E :=
  Abreast.weaken h fun r _ _ _ hs => ⟨hs.1 ▸ Likewise.refl r, hs.2⟩

theorem pure {a : α} (h : ∀ s s', P s s' → Q a s s') :
    Concur P (Pure.pure a : ExceptT ε (StateM τ) α) (Pure.pure a) Q E :=
  fun s s' hs => ⟨rfl, h s s' hs⟩

theorem throw {e : ε} (h : ∀ s s', P s s' → E (Reported.error e) s s') :
    Concur P (MonadExcept.throw e : ExceptT ε (StateM τ) α) (MonadExcept.throw e) Q E :=
  fun s s' hs => ⟨rfl, h s s' hs⟩

/-- Acts whose outcome is looked at. -/
theorem run_bind {f : Except ε α → StateM τ β} {f' : Except ε α → StateM τ' β'}
    {R : β → β' → τ → τ' → Prop} (h : Concur P act act' Q E)
    (hok : ∀ a, Abreast (Q a) (f (.ok a)) (f' (.ok a)) R)
    (herror : ∀ e e', Reported.error e = Reported.error e' →
      Abreast (E (Reported.error e)) (f (.error e)) (f' (.error e')) R) :
    Abreast P (act.run >>= f) (act'.run >>= f') R := by
  refine Abreast.bind h fun r r' => Abreast.assuming fun hr => ?_
  cases r with
  | ok a =>
      cases r' with
      | ok a' =>
          subst hr
          exact hok a
      | error e' => exact hr.elim
  | error e =>
      cases r' with
      | ok a' => exact hr.elim
      | error e' => exact herror e e' hr

theorem bind {f : α → ExceptT ε (StateM τ) β} {f' : α → ExceptT ε (StateM τ') β}
    {R : β → τ → τ' → Prop} (h : Concur P act act' Q E) (hf : ∀ a, Concur (Q a) (f a) (f' a) R E) :
    Concur P (act >>= f) (act' >>= f') R E := by
  change Abreast P (act.run >>= ExceptT.bindCont f) (act'.run >>= ExceptT.bindCont f') _
  exact run_bind h hf fun e e' he => Abreast.pure fun s s' hs => ⟨he, hs⟩

theorem map {f : α → β} {R : β → τ → τ' → Prop} (h : Concur P act act' Q E)
    (hf : ∀ a s s', Q a s s' → R (f a) s s') : Concur P (f <$> act) (f <$> act') R E := by
  rw [map_eq_pure_bind, map_eq_pure_bind]
  exact bind h fun a => pure (hf a)

theorem weaken (h : Concur P act act' Q E) (hQ : ∀ a s s', Q a s s' → Q' a s s')
    (hE : ∀ e s s', E e s s' → E' e s s') : Concur P act act' Q' E' := by
  refine Abreast.weaken h fun r r' s s' hs => ⟨hs.1, ?_⟩
  cases r with
  | ok a => exact hQ a s s' hs.2
  | error e => exact hE _ s s' hs.2

theorem strengthen (h : Concur P act act' Q E) (hP : ∀ s s', P' s s' → P s s') :
    Concur P' act act' Q E :=
  Abreast.strengthen h hP

theorem assuming {p : Prop} (h : p → Concur P act act' Q E) :
    Concur (fun s s' => p ∧ P s s') act act' Q E :=
  Abreast.assuming h

theorem lift {act : StateM τ α} {act' : StateM τ' α} (h : Abreast P act act' (Same Q)) :
    Concur P (ExceptT.lift act : ExceptT ε (StateM τ) α) (ExceptT.lift act') Q E :=
  fun s s' hs => h s s' hs

/-- Acts whose outcome is looked at before it is passed on. -/
theorem lift_run {f : Except ε α → ExceptT ε' (StateM τ) β}
    {f' : Except ε α → ExceptT ε' (StateM τ') β} {R : β → τ → τ' → Prop}
    (h : Concur P act act' Q E) (hok : ∀ a, Concur (Q a) (f (.ok a)) (f' (.ok a)) R E')
    (herror : ∀ e e', Reported.error e = Reported.error e' →
      Concur (E (Reported.error e)) (f (.error e)) (f' (.error e')) R E') :
    Concur P (ExceptT.lift act.run >>= f) (ExceptT.lift act'.run >>= f') R E' :=
  run_bind h hok herror

/-- An outcome that was kept is passed on. -/
theorem ofExcept {r : Except ε α} (hok : ∀ a, r = .ok a → ∀ s s', P s s' → Q a s s')
    (herror : ∀ e, r = .error e → ∀ s s', P s s' → E (Reported.error e) s s') :
    Concur P (MonadExcept.ofExcept r : ExceptT ε (StateM τ) α) (MonadExcept.ofExcept r) Q E := by
  cases r with
  | ok a => exact pure (hok a rfl)
  | error e => exact throw (herror e rfl)

theorem forM {f : α → ExceptT ε (StateM τ) PUnit} {f' : α → ExceptT ε (StateM τ') PUnit}
    (h : ∀ a, Concur P (f a) (f' a) (fun _ => P) E) (o : Option α) :
    Concur P (ForM.forM o f) (ForM.forM o f') (fun _ => P) E := by
  cases o with
  | none => exact pure fun _ _ hs => hs
  | some a => exact h a

/-- The second act is done also where the first has come to an error, which is the one that is
told. -/
theorem both {act₂ : ExceptT ε (StateM τ) PUnit} {act₂' : ExceptT ε (StateM τ') PUnit} {f : α → β}
    (h : Concur P' act act' (fun _ => P) E) (h₂ : Concur P act₂ act₂' (fun _ => P) E)
    (hlate : ∀ e, Abreast (E e) act₂.run act₂'.run fun _ _ => E e) :
    Concur P' (do
      let a ← ExceptT.lift act.run
      let c ← ExceptT.lift act₂.run
      let a ← MonadExcept.ofExcept a
      MonadExcept.ofExcept c
      return f a : ExceptT ε (StateM τ) β) (do
      let a ← ExceptT.lift act'.run
      let c ← ExceptT.lift act₂'.run
      let a ← MonadExcept.ofExcept a
      MonadExcept.ofExcept c
      return f a : ExceptT ε (StateM τ') β) (fun _ => P) E := by
  refine lift_run h (fun a => ?_) fun e e' he => ?_
  · exact lift_run h₂ (fun _ => pure fun _ _ hs => hs) fun e e' he _ _ hs => ⟨he, hs⟩
  · exact Abreast.bind (hlate _) fun _ _ => Abreast.pure fun s s' hs => ⟨he, hs⟩

theorem of_ok (h : Concur P act act' Q E) {s s₁ : τ} {s' : τ'} {a : α} (hs : P s s')
    (hr : act.run s = (.ok a, s₁)) : ∃ s₁', act'.run s' = (.ok a, s₁') ∧ Q a s₁ s₁' := by
  generalize hr' : act'.run s' = result
  obtain ⟨r', s₁'⟩ := result
  obtain ⟨hlike, hs⟩ := Abreast.of_run h hs hr hr'
  cases r' with
  | ok a' => exact ⟨s₁', by rw [show a = a' from hlike], hs⟩
  | error e' => exact hlike.elim

theorem of_error (h : Concur P act act' Q E) {s s₁ : τ} {s' : τ'} {e : ε} (hs : P s s')
    (hr : act.run s = (.error e, s₁)) : ∃ e' s₁', act'.run s' = (.error e', s₁') ∧
      Reported.error e = Reported.error e' ∧ E (Reported.error e) s₁ s₁' := by
  generalize hr' : act'.run s' = result
  obtain ⟨r', s₁'⟩ := result
  obtain ⟨hlike, hs⟩ := Abreast.of_run h hs hr hr'
  cases r' with
  | ok a' => exact hlike.elim
  | error e' => exact ⟨e', s₁', rfl, hlike, hs⟩

/-- What is read of the two states is the same. -/
theorem reading {γ : Type} {n : τ → γ} {n' : τ' → γ} {f : γ → ExceptT ε (StateM τ) β}
    {f' : γ → ExceptT ε (StateM τ') β} {Q : β → τ → τ' → Prop} {E : Error → τ → τ' → Prop}
    (hn : ∀ s s', P s s' → n s = n' s') (h : ∀ k, Concur P (f k) (f' k) Q E) :
    Concur P (do f (n (← get))) (do f' (n' (← get))) Q E := by
  intro s s' hs
  change (fun r r' s s' => Likewise r r' ∧ Ends Q E r s s') ((f (n s)).run s).1
    ((f' (n' s')).run s').1 ((f (n s)).run s).2 ((f' (n' s')).run s').2
  rw [← hn s s' hs]
  exact h (n s) s s' hs

end Concur

end

/-! ## Acts in sessions -/

section

variable {σ σ' α : Type} {P P' : Session σ → Session σ' → Prop}

/-- What is logged in the one session and in the other is of no account. -/
def Unlogged (P : Session σ → Session σ' → Prop) : Prop :=
  ∀ s s' l l', P s s' → P { s with log := l } { s' with log := l' }

theorem Unlogged.debug (h : Unlogged P) (text : String) :
    Abreast P (Session.debug text) (Session.debug text) (Same fun _ => P) :=
  fun s s' hs => ⟨rfl, h s s' _ _ hs⟩

theorem Concur.surfaced {act : Act σ Failure α} {act' : Act σ' Failure α}
    {Q : α → Session σ → Session σ' → Prop} {E : Error → Session σ → Session σ' → Prop}
    (h : Concur P act act' Q E) : Concur P (surfaced act) (surfaced act') Q E := by
  intro s s' hs
  have hr := h s s' hs
  revert hr
  change _ → Likewise ((act.run s).1.mapError Error.ofFailure)
      ((act'.run s').1.mapError Error.ofFailure) ∧
    Ends Q E ((act.run s).1.mapError Error.ofFailure) (act.run s).2 (act'.run s').2
  cases (act.run s).1 <;> cases (act'.run s').1 <;> exact id

theorem Concur.discarded {act : Act σ Failure α} {act' : Act σ' Failure α}
    {Q : Session σ → Session σ' → Prop} {E : Error → Session σ → Session σ' → Prop}
    (h : Concur P act act' (fun _ => Q) E) :
    Concur P (discard (SqlGateway.surfaced act)) (discard (SqlGateway.surfaced act'))
      (fun _ => Q) E :=
  Concur.map h.surfaced fun _ _ _ hs => hs

theorem Abreast.surfaced {act : Act σ Failure α} {act' : Act σ' Failure α}
    {Q : Session σ → Session σ' → Prop} (h : Abreast P act.run act'.run fun _ _ => Q) :
    Abreast P (surfaced act).run (surfaced act').run fun _ _ => Q :=
  h

/-- The outcome is only worth a warning. -/
theorem Abreast.orWarn {act : Act σ Failure Unit} {act' : Act σ' Failure Unit}
    (hlog : Unlogged P) (h : Abreast P' act.run act'.run fun _ _ => P) (what : String) :
    Abreast P' (orWarn act what) (orWarn act' what) (Same fun _ => P) := by
  refine Abreast.bind h fun r r' s s' hs => ?_
  cases r <;> cases r' <;> exact ⟨rfl, hlog s s' _ _ hs⟩

theorem Reading.run_ask {ρ : Type} {A : ρ → Type} (answer : (r : ρ) → Act σ Failure (A r)) (r : ρ)
    (next : Except Failure (A r) → Reading ρ A α) :
    (Reading.ask r next).run answer = (answer r).run >>= fun a => (next a).run answer :=
  rfl

/-- A setting that was made, or that the driver does not have. -/
def Passes (r : Except Failure α) : Prop :=
  ∀ f, r = .error f → f.isUnsupported = true

/-- A setting passes in both sessions, and then `P`, or it fails for the same reason in both, and
then `F` of that. -/
def Tolerable (P : Session σ → Session σ' → Prop) (F : Error → Session σ → Session σ' → Prop)
    (r r' : Except Failure α) (s : Session σ) (s' : Session σ') : Prop :=
  (Passes r ∧ Passes r' ∧ P s s') ∨
    ∃ f f', r = .error f ∧ r' = .error f' ∧ f.isUnsupported = false ∧ f'.isUnsupported = false ∧
      Error.ofFailure f = .ofFailure f' ∧ F (.ofFailure f) s s'

theorem tolerating_of_passes {act : Act σ Failure Unit} (setting : String) {s s₁ : Session σ}
    {r : Except Failure Unit} (h : act.run s = (r, s₁)) (hr : Passes r) :
    ∃ l, (tolerating setting act).run s = (.ok (), { s₁ with log := l }) := by
  unfold tolerating
  rw [run_bind_of_ok (run_lift h)]
  cases r with
  | ok a => exact ⟨s₁.log, rfl⟩
  | error f =>
      dsimp only
      rw [if_pos (hr f rfl)]
      exact ⟨_, rfl⟩

theorem tolerating_of_refused {act : Act σ Failure Unit} (setting : String) {s s₁ : Session σ}
    {f : Failure} (h : act.run s = (.error f, s₁)) (hf : f.isUnsupported = false) :
    (tolerating setting act).run s = (.error (.ofFailure f), s₁) := by
  unfold tolerating
  rw [run_bind_of_ok (run_lift h)]
  dsimp only
  rw [if_neg (Bool.eq_false_iff.mp hf)]
  rfl

theorem Concur.tolerating {act : Act σ Failure Unit} {act' : Act σ' Failure Unit}
    {F : Error → Session σ → Session σ' → Prop} (hlog : Unlogged P)
    (h : Abreast P act.run act'.run (Tolerable P F)) (setting : String) :
    Concur P (tolerating setting act) (tolerating setting act') (fun _ => P) F := by
  intro s s' hs
  have hr := h s s' hs
  generalize hrun : act.run s = result at hr
  generalize hrun' : act'.run s' = result' at hr
  obtain ⟨r, s₁⟩ := result
  obtain ⟨r', s₁'⟩ := result'
  rcases hr with ⟨hpass, hpass', hs⟩ | ⟨f, f', rfl, rfl, hf, hf', htold, hs⟩
  · obtain ⟨l, hl⟩ := tolerating_of_passes setting hrun hpass
    obtain ⟨l', hl'⟩ := tolerating_of_passes setting hrun' hpass'
    rw [hl, hl']
    exact ⟨rfl, hlog s₁ s₁' l l' hs⟩
  · rw [tolerating_of_refused setting hrun hf, tolerating_of_refused setting hrun' hf']
    exact ⟨htold, hs⟩

end

/-! ## Phases of an operation -/

/-- What holds of two sessions in the phases of an operation. -/
structure Phases (σ σ' : Type) where
  /-- Nothing has failed so far. -/
  going : Session σ → Session σ' → Prop
  /-- The statement was prepared and is being configured. -/
  fresh (i : StatementId) : Session σ → Session σ' → Prop
  /-- A setting of the statement has failed. -/
  refused (i : StatementId) (e : Error) : Session σ → Session σ' → Prop
  /-- Something else has failed, and what was opened is being closed. -/
  failing (e : Error) : Session σ → Session σ' → Prop
  /-- The operation has come to an error. -/
  failed (e : Error) : Session σ → Session σ' → Prop
  /-- The results of the statement have come to their end. -/
  spent (i : StatementId) : Session σ → Session σ' → Prop
  /-- The operation has succeeded. -/
  done : Session σ → Session σ' → Prop

/-- The drivers lead from phase to phase side by side. -/
structure Accord {σ σ' : Type} (d : Driver σ) (d' : Driver σ') (v : Phases σ σ') : Prop where
  counts (s : Session σ) (s' : Session σ') :
    v.going s s' → s.statements = s'.statements ∧ s.cursors = s'.cursors
  countStatements (i : StatementId) (s : Session σ) (s' : Session σ') (n : Nat) :
    v.fresh i s s' → v.fresh i { s with statements := n } { s' with statements := n }
  countCursors (s : Session σ) (s' : Session σ') (n : Nat) :
    v.going s s' → v.going { s with cursors := n } { s' with cursors := n }
  log_going : Unlogged v.going
  log_fresh (i : StatementId) : Unlogged (v.fresh i)
  log_failing (e : Error) : Unlogged (v.failing e)
  log_failed (e : Error) : Unlogged (v.failed e)
  log_done : Unlogged v.done
  going_of_fresh (i : StatementId) (s : Session σ) (s' : Session σ') : v.fresh i s s' → v.going s s'
  failed_of_failing (e : Error) (s : Session σ) (s' : Session σ') : v.failing e s s' →
    v.failed e s s'
  refusal (e : Error) (s : Session σ) (s' : Session σ') : (∀ reason, e ≠ .execution reason) →
    v.going s s' → v.failing e s s'
  done_of_going (s : Session σ) (s' : Session σ') : v.going s s' → v.done s s'
  ask (p : Probe) : p ≠ .isClosed → Abreast v.going (d.ask p) (d'.ask p) (Same fun _ => v.going)
  isClosed : Abreast v.going (d.ask .isClosed) (d'.ask .isClosed)
    (Same fun closed => if closed then v.failed (.execution .connectionClosed) else v.going)
  prepare (i : StatementId) (sql : String) (kind : StatementKind) (keys : GeneratedKeys) :
    Concur v.going (d.perform (.prepare i sql kind keys)) (d'.perform (.prepare i sql kind keys))
      (fun _ => v.fresh i) v.failing
  option (c : Call) (i : StatementId) : c.isOption = true → c.handle? = some (.statement i) →
    Abreast (v.fresh i) (d.perform c).run (d'.perform c).run (Tolerable (v.fresh i) (v.refused i))
  closeRefused (i : StatementId) (e : Error) :
    Abreast (v.refused i e) (d.perform (.closeStatement i)).run (d'.perform (.closeStatement i)).run
      fun _ _ => v.failed e
  call (c : Call) : c.isOption = false → c.isTransactional = false →
    Concur v.going (d.perform c) (d'.perform c) (fun _ => v.going) v.failing
  late (c : Call) (e : Error) : c.isOption = false → c.isTransactional = false →
    Abreast (v.failing e) (d.perform c).run (d'.perform c).run fun _ _ => v.failing e
  exhausted (i : StatementId) :
    Concur v.going (d.perform (.moreResults i)) (d'.perform (.moreResults i))
      (fun more => if more then v.going else v.spent i) v.failing
  closeSpent (i : StatementId) :
    Abreast (v.spent i) (d.perform (.closeStatement i)).run (d'.perform (.closeStatement i)).run
      fun _ _ => v.done

variable {σ σ' α : Type} {d : Driver σ} {d' : Driver σ'} {v : Phases σ σ'}

/-- What the mapper makes of a row is the same in both sessions. -/
def Phases.Maps (v : Phases σ σ') (d : Driver σ) (d' : Driver σ') (mapper : RowMapper α) : Prop :=
  ∀ c row, Concur v.going (d.readRow c (mapper row)) (d'.readRow c (mapper row)) (fun _ => v.going)
    v.failing

/-- So is what the mapper makes of output values, be it after the results or before. -/
def Phases.Reads (v : Phases σ σ') (d : Driver σ) (d' : Driver σ') (mapper : OutMapper α) : Prop :=
  ∀ i slots,
    Concur v.going (d.readOut i (mapper slots)) (d'.readOut i (mapper slots)) (fun _ => v.going)
      v.failing ∧
    Concur (v.spent i) (d.readOut i (mapper slots)) (d'.readOut i (mapper slots))
      (fun _ => v.spent i) v.failing

namespace Accord

variable (h : Accord d d' v)
include h

theorem perform (c : Call) (ho : c.isOption = false) (ht : c.isTransactional = false) :
    Concur v.going (surfaced (d.perform c)) (surfaced (d'.perform c)) (fun _ => v.going) v.failed :=
  Concur.weaken (h.call c ho ht).surfaced (fun _ _ _ hs => hs) h.failed_of_failing

theorem openStatement (sql : String) (kind : StatementKind) (keys : GeneratedKeys) :
    Concur v.going (d.prepare sql kind keys) (d'.prepare sql kind keys) v.fresh v.failing := by
  have numbered (k : Nat) : Concur v.going (do
        d.perform (.prepare ⟨k + 1⟩ sql kind keys)
        modify fun s => { s with statements := k + 1 }
        return ⟨k + 1⟩ : Act σ Failure StatementId) (do
        d'.perform (.prepare ⟨k + 1⟩ sql kind keys)
        modify fun s => { s with statements := k + 1 }
        return ⟨k + 1⟩ : Act σ' Failure StatementId) v.fresh v.failing :=
    Concur.bind (h.prepare ⟨k + 1⟩ sql kind keys) fun _ s s' hs =>
      ⟨rfl, h.countStatements _ s s' (k + 1) hs⟩
  have opened := Concur.reading (fun s s' hs => (h.counts s s' hs).1) numbered
  exact opened

theorem openCursor (i : StatementId) :
    Concur v.going (d.openCursor i) (d'.openCursor i) (fun _ => v.going) v.failing := by
  have numbered (k : Nat) : Concur v.going (do
        if ← d.perform (.resultCursor i ⟨k + 1⟩) then
          modify fun s => { s with cursors := k + 1 }
          return some ⟨k + 1⟩
        else return none : Act σ Failure (Option CursorId)) (do
        if ← d'.perform (.resultCursor i ⟨k + 1⟩) then
          modify fun s => { s with cursors := k + 1 }
          return some ⟨k + 1⟩
        else return none : Act σ' Failure (Option CursorId)) (fun _ => v.going) v.failing := by
    refine Concur.bind (h.call (.resultCursor i ⟨k + 1⟩) rfl rfl) fun opened => ?_
    cases opened with
    | true => exact fun s s' hs => ⟨rfl, h.countCursors s s' (k + 1) hs⟩
    | false => exact Concur.pure fun _ _ hs => hs
  have opened := Concur.reading (fun s s' hs => (h.counts s s' hs).2) numbered
  exact opened

theorem openKeys (i : StatementId) :
    Concur v.going (d.openKeys i) (d'.openKeys i) (fun _ => v.going) v.failing := by
  have numbered (k : Nat) : Concur v.going (do
        d.perform (.generatedKeys i ⟨k + 1⟩)
        modify fun s => { s with cursors := k + 1 }
        return ⟨k + 1⟩ : Act σ Failure CursorId) (do
        d'.perform (.generatedKeys i ⟨k + 1⟩)
        modify fun s => { s with cursors := k + 1 }
        return ⟨k + 1⟩ : Act σ' Failure CursorId) (fun _ => v.going) v.failing :=
    Concur.bind (h.call (.generatedKeys i ⟨k + 1⟩) rfl rfl) fun _ s s' hs =>
      ⟨rfl, h.countCursors s s' (k + 1) hs⟩
  have opened := Concur.reading (fun s s' hs => (h.counts s s' hs).2) numbered
  exact opened

theorem closeStatementWarned (e : Error) (i : StatementId) (what : String) :
    Abreast (v.failing e) (orWarn (d.perform (.closeStatement i)) what)
      (orWarn (d'.perform (.closeStatement i)) what) (Same fun _ => v.failing e) :=
  Abreast.orWarn (h.log_failing e) (h.late (.closeStatement i) e rfl rfl) what

end Accord

end SqlGateway
