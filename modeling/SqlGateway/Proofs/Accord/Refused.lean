import SqlGateway.Database.Scripted.Driver
import SqlGateway.Proofs.Accord.Revision

/-!
# Settings that are refused

The settings of a statement come right after it was prepared. Where one of them fails, other than by
not being supported, the statement is closed, the transactions around it are rolled back, and that
is all.
-/

namespace SqlGateway

variable {σ τ α γ : Type} {d : Driver σ} {u v : List Exchange} {x : Exchange} {e : Error}
  {i : StatementId} {p : Savepoint} {around : List Savepoint}

namespace Exchange

/-- A setting has failed, and is not just unsupported. -/
def Refuses : Exchange → Prop
  | .call c (.error f) => c.isOption = true ∧ f.isUnsupported = false
  | _ => False

instance : DecidablePred Refuses
  | .call c (.error f) => inferInstanceAs (Decidable (c.isOption = true ∧ f.isUnsupported = false))
  | .call _ (.ok _) | .probe .. => .isFalse id

theorem Refuses.eq_call (h : x.Refuses) :
    ∃ c f, x = .call c (.error f) ∧ c.isOption = true ∧ f.isUnsupported = false := by
  obtain _ | ⟨c, f | a⟩ := x
  · exact h.elim
  · exact ⟨c, f, rfl, h⟩
  · exact h.elim

/-- A setting of the statement. -/
def Sets (i : StatementId) (x : Exchange) : Prop :=
  ∃ c answer, x = .call c answer ∧ c.isOption = true ∧ c.handle? = some (.statement i)

/-- The savepoints that are there after the exchange, the innermost first. -/
def savepoints (around : List Savepoint) : Exchange → List Savepoint
  | .call .setSavepoint (.ok p) => p :: around
  | .call .commit (.ok _) | .call (.releaseSavepoint _) _ => around.tail
  | _ => around

end Exchange

/-- The savepoints of the transactions that have begun and not ended. -/
def openSavepoints (u : List Exchange) : List Savepoint :=
  u.foldl Exchange.savepoints []

def Calm (u : List Exchange) : Prop :=
  ∀ x ∈ u, ¬ x.Refuses

/-- Since the statement was prepared there was nothing but settings of it. -/
def Configuring (i : StatementId) (u : List Exchange) : Prop :=
  ∃ before sql kind keys settings,
    u = before ++ .call (.prepare i sql kind keys) (.ok ()) :: settings ∧ ∀ x ∈ settings, x.Sets i

/-- Rolls back to the savepoint of a transaction, releases it and puts back what the transaction has
changed. -/
def RollsBack (p : Savepoint) (u : List Exchange) : Prop :=
  ∃ rolled released autoCommit restored isolation,
    u = .call (.rollbackTo p) rolled :: .call (.releaseSavepoint p) released ::
      .call (.setAutoCommit autoCommit) restored :: isolation ∧
    (isolation = [] ∨ ∃ level reverted, isolation = [.call (.setIsolation level) reverted])

/-- A setting was refused and all was given up, up to the transactions that are still there. -/
def Abandoned (around : List Savepoint) (e : Error) (u : List Exchange) : Prop :=
  ∃ before c f i closed inner rollbacks,
    u = before ++ .call c (.error f) :: .call (.closeStatement i) closed :: rollbacks.flatten ∧
    (c.isOption = true ∧ c.handle? = some (.statement i) ∧ f.isUnsupported = false ∧
      e = .ofFailure f) ∧
    (Calm before ∧ Configuring i before) ∧ openSavepoints before = inner ++ around ∧
    List.Forall₂ RollsBack inner rollbacks

theorem Calm.append (h : Calm u) (hx : ¬ x.Refuses) : Calm (u ++ [x]) :=
  List.forall_mem_append.mpr ⟨h, List.forall_mem_singleton.mpr hx⟩

theorem Exchange.not_refuses {c : Call} (hc : c.isOption = false) (r : Except Failure c.Answer) :
    ¬ (Exchange.call c r).Refuses := by
  cases r with
  | ok a => exact id
  | error f => exact fun h => absurd h.1 (by simp [hc])

theorem openSavepoints_append (u : List Exchange) (x : Exchange) :
    openSavepoints (u ++ [x]) = x.savepoints (openSavepoints u) :=
  List.foldl_concat ..

/-- Savepoints are neither made nor released by the call. -/
def Call.KeepsSavepoints (c : Call) : Prop :=
  ∀ (around : List Savepoint) (r : Except Failure c.Answer),
    (Exchange.call c r).savepoints around = around

theorem Call.keepsSavepoints {c : Call} (hc : c.isTransactional = false) : c.KeepsSavepoints := by
  intro around r
  cases c <;> first | rfl | cases hc

theorem RollsBack.calm (h : RollsBack p u) : Calm u := by
  obtain ⟨rolled, released, autoCommit, restored, isolation, rfl, hisolation⟩ := h
  have plain {c : Call} (hc : c.isOption = false) (r : Except Failure c.Answer) {u : List Exchange}
      (h : Calm u) : Calm (.call c r :: u) :=
    List.forall_mem_cons.mpr ⟨Exchange.not_refuses hc r, h⟩
  refine plain rfl _ (plain rfl _ (plain rfl _ ?_))
  obtain rfl | ⟨level, reverted, rfl⟩ := hisolation
  · exact fun _ hx => absurd hx List.not_mem_nil
  · exact plain rfl _ fun _ hx => absurd hx List.not_mem_nil

/-- The outcome of an operation that has begun within some transactions and has failed. -/
def Concluded (around : List Savepoint) (e : Error) (u : List Exchange) : Prop :=
  Calm u ∨ Abandoned around e u

/-- One more transaction is rolled back. -/
theorem Concluded.rollsBack (h : Concluded (p :: around) e u) (hv : RollsBack p v) :
    Concluded around e (u ++ v) := by
  obtain hcalm | ⟨before, c, f, i, closed, inner, rollbacks, rfl, hc, hbefore, hopen, hrollbacks⟩ :=
    h
  · exact .inl (List.forall_mem_append.mpr ⟨hcalm, hv.calm⟩)
  · refine .inr ⟨before, c, f, i, closed, inner ++ [p], rollbacks ++ [v], by simp, hc,
      hbefore, ?_, ?_⟩
    · rw [hopen, List.append_assoc, List.singleton_append]
    · exact List.rel_append hrollbacks (.cons hv .nil)

/-! ## Phases -/

/-- No setting was refused, and these savepoints are open. -/
def Amid (around : List Savepoint) (u : List Exchange) : Prop :=
  Calm u ∧ openSavepoints u = around

def refusalPhases (σ : Type) (around : List Savepoint) : Phases (Traced σ) (Traced σ) where
  going := Alongside (Amid around)
  fresh i := Alongside fun u => Amid around u ∧ Configuring i u
  refused i e := Alongside fun u => ∃ before c f, u = before ++ [.call c (.error f)] ∧
    (c.isOption = true ∧ c.handle? = some (.statement i) ∧ f.isUnsupported = false ∧
      e = .ofFailure f) ∧ Amid around before ∧ Configuring i before
  failing _ := Alongside Calm
  failed e := Alongside (Concluded around e)
  spent _ := Alongside (Amid around)
  done := Alongside Calm

theorem Amid.append (h : Amid around u) {c : Call} (hc : c.isOption = false)
    (hk : c.KeepsSavepoints) (r : Except Failure c.Answer) : Amid around (u ++ [.call c r]) :=
  ⟨h.1.append (Exchange.not_refuses hc r), (openSavepoints_append ..).trans ((hk _ r).trans h.2)⟩

theorem Amid.append_probe (h : Amid around u) (p : Probe) (answer : Bool) :
    Amid around (u ++ [.probe p answer]) :=
  ⟨h.1.append id, (openSavepoints_append ..).trans h.2⟩

theorem Calm.late {c : Call} (hc : c.isOption = false) :
    Abreast (Alongside Calm) (d.traced.perform c).run (d.traced.perform c).run
      fun _ _ => Alongside Calm :=
  Alongside.late fun _ r hu => hu.append (Exchange.not_refuses hc r)

theorem Amid.call {c : Call} (hc : c.isOption = false) (hk : c.KeepsSavepoints) :
    Concur (Alongside (Amid around)) (d.traced.perform c) (d.traced.perform c)
      (fun _ => Alongside (Amid around)) fun _ => Alongside Calm :=
  Alongside.perform (fun _ _ hu => hu.append hc hk _) fun _ _ hu =>
    hu.1.append (Exchange.not_refuses hc _)

theorem Configuring.option {c : Call} (hc : c.isOption = true)
    (hi : c.handle? = some (.statement i)) :
    Abreast ((refusalPhases σ around).fresh i) (d.traced.perform c).run (d.traced.perform c).run
      (Tolerable ((refusalPhases σ around).fresh i) ((refusalPhases σ around).refused i)) := by
  have answered : Abreast ((refusalPhases σ around).fresh i) (d.traced.perform c).run
      (d.traced.perform c).run (Same fun r => Alongside fun u =>
        ∃ before, u = before ++ [.call c r] ∧ Amid around before ∧ Configuring i before) :=
    Alongside.outcome fun u r hu => ⟨u, rfl, hu⟩
  refine Abreast.weaken answered fun r r' s s' ⟨hr, hs⟩ => ?_
  subst hr
  obtain ⟨before, htrace, hwithin, front, sql, kind, keys, settings, rfl, hsettings⟩ := hs.passed
  have fresh (hr : ¬ (Exchange.call c r).Refuses) : (refusalPhases σ around).fresh i s s' := by
    refine { hs with passed := ?_ }
    rw [htrace]
    refine ⟨⟨hwithin.1.append hr, (openSavepoints_append ..).trans ?_⟩, front, sql, kind, keys,
      settings ++ [.call c r], by simp, ?_⟩
    · rw [Call.keepsSavepoints (by cases c <;> first | rfl | cases hc), hwithin.2]
    · exact List.forall_mem_append.mpr
        ⟨hsettings, List.forall_mem_singleton.mpr ⟨c, r, rfl, hc, hi⟩⟩
  cases r with
  | ok a => exact .inl ⟨nofun, nofun, fresh id⟩
  | error f =>
      cases hf : f.isUnsupported with
      | true =>
          have passes : Passes (.error f : Except Failure c.Answer) :=
            fun f' hf' => Except.error.inj hf' ▸ hf
          exact .inl ⟨passes, passes, fresh fun h => absurd h.2 (by simp [hf])⟩
      | false =>
          refine .inr ⟨f, f, rfl, rfl, hf, hf, rfl, { hs with passed := ?_ }⟩
          exact ⟨_, c, f, htrace, ⟨hc, hi, hf, rfl⟩, hwithin, front, sql, kind, keys, settings, rfl,
            hsettings⟩

theorem refusal_accord (d : Driver σ) (around : List Savepoint) :
    Accord d.traced d.traced (refusalPhases σ around) where
  counts s s' hs := ⟨hs.statements, hs.cursors⟩
  countStatements _ s s' n hs := { hs with statements := rfl }
  countCursors s s' n hs := { hs with cursors := rfl }
  log_going := Alongside.unlogged
  log_fresh _ := Alongside.unlogged
  log_failing _ := Alongside.unlogged
  log_failed _ := Alongside.unlogged
  log_done := Alongside.unlogged
  going_of_fresh _ _ _ hs := hs.mono fun _ hu => hu.1
  failed_of_failing _ _ _ hs := hs.mono fun _ => .inl
  refusal _ _ _ _ hs := hs.mono fun _ hu => hu.1
  done_of_going _ _ hs := hs.mono fun _ hu => hu.1
  ask p _ := Alongside.ask fun _ _ hu => hu.append_probe ..
  isClosed := by
    refine Abreast.weaken (Alongside.ask (q := fun _ => Amid around) fun _ _ hu =>
      hu.append_probe ..)
      fun closed closed' s s' ⟨hclosed, hs⟩ => ⟨hclosed, ?_⟩
    cases closed with
    | true => exact hs.mono fun _ hu => .inl hu.1
    | false => exact hs
  prepare i sql kind keys := by
    refine Alongside.perform (fun u a hu => ⟨hu.append rfl (Call.keepsSavepoints rfl) _, ?_⟩)
      fun u f hu => hu.1.append (Exchange.not_refuses rfl _)
    exact ⟨u, sql, kind, keys, [], rfl, fun _ hx => absurd hx List.not_mem_nil⟩
  option c i hc hi := Configuring.option hc hi
  closeRefused i e := Alongside.late fun u r hu => by
    obtain ⟨before, c, f, rfl, hc, hwithin, hconfiguring⟩ := hu
    exact .inr ⟨before, c, f, i, r, [], [], by simp, hc, ⟨hwithin.1, hconfiguring⟩, hwithin.2, .nil⟩
  call c hc ht := Amid.call hc (Call.keepsSavepoints ht)
  late c e hc _ := Calm.late hc
  exhausted i := by
    refine Concur.weaken (Amid.call rfl (Call.keepsSavepoints rfl)) (fun more s s' hs => ?_)
      fun _ _ _ hs => hs
    cases more <;> exact hs
  closeSpent i := Alongside.late fun u r hu => hu.1.append (Exchange.not_refuses rfl r)

/-! ## Transactions -/

/-- What an abort does is on the trace behind what there was. -/
theorem Concluded.abort (p : Savepoint) (e : Error) (autoCommit : Bool)
    (isolation : Option IsolationLevel) :
    Abreast (Alongside (Concluded (p :: around) e)) (d.traced.abort p autoCommit isolation)
      (d.traced.abort p autoCommit isolation) fun _ _ => Alongside (Concluded around e) := by
  refine Abreast.same_bind (Abreast.orWarn Alongside.unlogged (Alongside.late (q := fun v =>
    ∃ u rolled, v = u ++ [.call (.rollbackTo p) rolled] ∧ Concluded (p :: around) e u)
      fun u rolled hu => ⟨u, rolled, rfl, hu⟩) _) fun _ => ?_
  refine Abreast.same_bind (Abreast.orWarn Alongside.unlogged (Alongside.late (q := fun v =>
    ∃ u rolled released,
      v = u ++ [.call (.rollbackTo p) rolled, .call (.releaseSavepoint p) released] ∧
      Concluded (p :: around) e u) fun v released ⟨u, rolled, hv, hu⟩ =>
        ⟨u, rolled, released, by simp [hv], hu⟩) _) fun _ => ?_
  refine Abreast.same_bind (Abreast.orWarn Alongside.unlogged (Alongside.late (q := fun v =>
    ∃ u rolled released restored, v = u ++ [.call (.rollbackTo p) rolled,
      .call (.releaseSavepoint p) released, .call (.setAutoCommit autoCommit) restored] ∧
      Concluded (p :: around) e u) fun v restored ⟨u, rolled, released, hv, hu⟩ =>
        ⟨u, rolled, released, restored, by simp [hv], hu⟩) _) fun _ => ?_
  cases isolation with
  | none =>
      refine Abreast.pure fun s s' hs => hs.mono fun v ⟨u, rolled, released, restored, hv, hu⟩ => ?_
      exact hv ▸ hu.rollsBack ⟨rolled, released, autoCommit, restored, [], rfl, .inl rfl⟩
  | some level =>
      refine Abreast.weaken (Abreast.orWarn Alongside.unlogged (Alongside.late
        fun v reverted ⟨u, rolled, released, restored, hv, hu⟩ => ?_) _) fun _ _ _ _ hs => hs.2
      rw [hv, List.append_assoc]
      exact hu.rollsBack ⟨rolled, released, autoCommit, restored, _, rfl,
        .inr ⟨level, reverted, rfl⟩⟩

/-- Amid a transaction its savepoint is the innermost one. -/
theorem refusal_bracket (d : Driver σ) (around : List Savepoint) :
    Bracket d.traced d.traced (refusalPhases σ around).going (refusalPhases σ around).failing
      (refusalPhases σ around).failed (fun p => (refusalPhases σ (p :: around)).going)
      fun p => (refusalPhases σ (p :: around)).failed where
  log _ := Alongside.unlogged
  log_inside _ _ := Alongside.unlogged
  failed _ _ _ hs := hs.mono fun _ => .inl
  autoCommit := Amid.call rfl fun _ _ => rfl
  isolation := Amid.call rfl fun _ _ => rfl
  setAutoCommit _ := Amid.call rfl fun _ _ => rfl
  setIsolation _ := Amid.call rfl fun _ _ => rfl
  lateAutoCommit _ _ := Calm.late rfl
  lateIsolation _ _ := Calm.late rfl
  setSavepoint := Alongside.perform
    (fun _ _ hu => ⟨hu.1.append id, (openSavepoints_append ..).trans (congrArg _ hu.2)⟩)
    fun _ _ hu => hu.1.append (Exchange.not_refuses rfl _)
  ask _ _ := Alongside.ask fun _ _ hu => hu.append_probe ..
  changeIsolation _ _ := Concur.weaken (Amid.call rfl fun _ _ => rfl) (fun _ _ _ hs => hs)
    fun _ _ _ (hs : Alongside ..) => hs.mono fun _ => .inl
  commit _ := Alongside.perform
    (fun _ _ hu => ⟨hu.1.append id, (openSavepoints_append ..).trans (congrArg List.tail hu.2)⟩)
    fun _ _ hu => .inl (hu.1.append (Exchange.not_refuses rfl _))
  abort p e autoCommit isolation := Concluded.abort p e autoCommit isolation

theorem refusal_concord (d : Driver σ) : Concord d.traced d.traced (refusalPhases σ) where
  accord := refusal_accord d
  transaction isolation hact around :=
    (refusal_bracket d around).inTransaction (fun p => hact (p :: around)) isolation

/-! ## Programs of the caller -/

theorem Amid.read {ρ : Type} {A : ρ → Type} {answer : (r : ρ) → Act (Traced σ) Failure (A r)}
    {heard : (r : ρ) → Except Failure (A r) → Exchange} (h : Answers answer heard)
    (hheard : ∀ u r a, Amid around u → Amid around (u ++ [heard r a]))
    (reading : ExceptT Error (Reading ρ A) α) :
    Concur (Alongside (Amid around)) (ExceptT.mk (reading.run.run answer))
      (ExceptT.mk (reading.run.run answer)) (fun _ => Alongside (Amid around))
      fun _ => Alongside Calm := by
  refine Concur.of_same (Abreast.weaken (h.kept hheard reading.run) fun r r' s s' hs => ⟨hs.1, ?_⟩)
  cases r with
  | ok a => exact hs.2
  | error e => exact hs.2.mono fun _ hu => hu.1

theorem refusal_maps (d : Driver σ) (mapper : RowMapper α) (around : List Savepoint) :
    (refusalPhases σ around).Maps d.traced d.traced mapper := by
  refine fun c row => Amid.read (answers_cell d c) (fun u r a hu => ?_) (mapper row)
  cases r <;> exact hu.append rfl (Call.keepsSavepoints rfl) _

theorem refusal_reads (d : Driver σ) (mapper : OutMapper α) (around : List Savepoint) :
    (refusalPhases σ around).Reads d.traced d.traced mapper := by
  have heard (i : StatementId) (u : List Exchange) (r : OutRead) (a : Except Failure r.Answer)
      (hu : Amid around u) : Amid around (u ++ [.call (.outValue i r.position r.type) a]) :=
    hu.append rfl (Call.keepsSavepoints rfl) _
  exact fun i slots => ⟨Amid.read (answers_out d i) (heard i) (mapper slots),
    Amid.read (answers_out d i) (heard i) (mapper slots)⟩

/-! ## Jobs -/

/-- Where only one setting was refused there is one way to tell what was before it. -/
theorem split_unique {β : Type} {q : β → Prop} {a a' b b' : List β} {x x' : β}
    (h : a ++ x :: b = a' ++ x' :: b') (hx : q x) (hx' : q x') (ha : ∀ y ∈ a', ¬ q y)
    (hb : ∀ y ∈ b', ¬ q y) : a = a' ∧ x = x' ∧ b = b' := by
  induction a generalizing a' with
  | nil =>
      cases a' with
      | nil =>
          obtain ⟨rfl, rfl⟩ := List.cons.inj h
          exact ⟨rfl, rfl, rfl⟩
      | cons y a' =>
          obtain ⟨rfl, -⟩ := List.cons.inj h
          exact absurd hx (ha x List.mem_cons_self)
  | cons y a ih =>
      cases a' with
      | nil =>
          obtain ⟨-, rfl⟩ := List.cons.inj h
          exact absurd hx (hb x (by simp))
      | cons y' a' =>
          obtain ⟨rfl, htail⟩ := List.cons.inj h
          obtain ⟨rfl, hrest⟩ := ih htail fun z hz => ha z (List.mem_cons_of_mem y hz)
          exact ⟨rfl, hrest⟩

theorem Abandoned.of_refused (h : Abandoned around e u) {before after : List Exchange} {c : Call}
    {f : Failure} (hu : u = before ++ .call c (.error f) :: after) (hc : c.isOption = true)
    (hf : f.isUnsupported = false) :
    e = .ofFailure f ∧ ∃ i closed inner rollbacks, c.handle? = some (.statement i) ∧
      Configuring i before ∧ openSavepoints before = inner ++ around ∧
      after = .call (.closeStatement i) closed :: rollbacks.flatten ∧
      List.Forall₂ RollsBack inner rollbacks := by
  obtain ⟨before', c', f', i, closed, inner, rollbacks, hu', ⟨hc', hi, hf', he⟩,
    ⟨hcalm, hconfiguring⟩, hopen, hrollbacks⟩ := h
  have hrest : Calm (.call (.closeStatement i) closed :: rollbacks.flatten) := by
    refine List.forall_mem_cons.mpr ⟨Exchange.not_refuses rfl closed, fun x hx => ?_⟩
    obtain ⟨rollback, hrollback, hx⟩ := List.mem_flatten.mp hx
    obtain ⟨p, -, hp⟩ := exists_of_forall₂_left hrollbacks.flip hrollback
    exact RollsBack.calm hp x hx
  obtain ⟨rfl, heq, rfl⟩ := split_unique (hu.symm.trans hu') ⟨hc, hf⟩ ⟨hc', hf'⟩ hcalm hrest
  cases heq
  exact ⟨he, i, closed, inner, rollbacks, hi, hconfiguring, hopen, rfl, hrollbacks⟩

/-- What is not supported does not matter: neither what is asked of the driver nor what the caller
gets would be different if unsupported settings were made and other unsupported calls just failed. A
setting that fails is reported, with its statement closed, all transactions rolled back, and nothing
else done since the statement was prepared. -/
theorem settings_tolerated (chosen : Nat → Bool) (job : Job τ γ)
    (hbrings : job.Brings (fun _ mapper => ∀ row, (mapper row).run.Blind)
      (fun _ mapper => ∀ slots, (mapper slots).run.Blind) fun _ => True)
    (d : Driver σ) (s : Session σ) :
    let run := job.run d.traced s.watched
    let revised := job.run (d.revised chosen).traced s.counted.watched
    (revised.1 = run.1 ∧ revised.2.trace = revise chosen run.2.trace) ∧
    ∀ before c f after, run.2.trace = before ++ .call c (.error f) :: after → c.isOption = true →
      f.isUnsupported = false →
      job.report? run.1 = some (.error (.ofFailure f)) ∧
      ∃ i closed rollbacks, c.handle? = some (.statement i) ∧ Configuring i before ∧
        after = .call (.closeStatement i) closed :: rollbacks.flatten ∧
        List.Forall₂ RollsBack (openSavepoints before) rollbacks := by
  intro run revised
  refine ⟨revised_job chosen job hbrings d s, fun before c f after hu hc hf => ?_⟩
  have hstart : Alongside (Amid []) s.watched s.watched :=
    ⟨rfl, rfl, rfl, fun _ hx => absurd hx List.not_mem_nil, rfl⟩
  obtain ⟨-, hafter⟩ := (refusal_concord d).job [] (refusal_maps d Row.toMap []) job
    (hbrings.mono (fun _ mapper _ => refusal_maps d mapper)
      (fun _ mapper _ => refusal_reads d mapper)
      fun _ _ _ _ _ (hs : Alongside ..) => hs.mono fun _ hu => .inl hu.1) _ _ hstart
  have refused : ¬ Calm run.2.trace := fun h =>
    h (.call c (.error f)) (by simp [hu]) ⟨hc, hf⟩
  revert hafter
  change (refusalPhases σ []).After (job.report? run.1) run.2 run.2 → _
  generalize job.report? run.1 = report
  rcases report with _ | e | _
  · rintro (hs | ⟨_, hs⟩)
    · exact absurd hs.passed.1 refused
    · exact absurd hs.passed refused
  · intro hs
    obtain hcalm | habandoned := hs.passed
    · exact absurd hcalm refused
    · obtain ⟨he, i, closed, inner, rollbacks, hi, hconfiguring, hopen, hrest, hrollbacks⟩ :=
        habandoned.of_refused hu hc hf
      obtain rfl : e = .ofFailure f := he
      rw [List.append_nil] at hopen
      exact ⟨rfl, i, closed, rollbacks, hi, hconfiguring, hrest, hopen ▸ hrollbacks⟩
  · exact fun hs => absurd hs.passed refused

open Database in
/-- Of an update in a transaction the timeout is not supported and the pooling hint is refused. -/
theorem settings_tolerated_refused_hint :
    let job : Job Value (Except Error UInt64) :=
      .work (.deed (.update ⟨"insert", [[.int 1], [.int 2]], { timeout := some ⟨5, 0⟩ }⟩) .done)
    let s : Session Scripted := { database := {
      faults := [⟨"set_timeout", 1, .unsupported "a timeout"⟩, ⟨"set_poolable", 1, .plain "no"⟩] } }
    let run := job.run Scripted.driver.traced s.watched
    let revised := job.run (Scripted.driver.revised (· == 6)).traced s.counted.watched
    (revised.1 = run.1 ∧ revised.2.trace = revise (· == 6) run.2.trace) ∧
    ∃ before c f i closed rollbacks,
      run.2.trace = before ++ .call c (.error f) :: .call (.closeStatement i) closed ::
        rollbacks.flatten ∧
      job.report? run.1 = some (.error (.ofFailure f)) ∧ Configuring i before ∧
      List.Forall₂ RollsBack (openSavepoints before) rollbacks := by
  intro job s run revised
  have h := settings_tolerated (· == 6) job ⟨trivial, fun _ => trivial⟩ Scripted.driver s
  have hrefused : ∃ x ∈ run.2.trace, x.Refuses := by decide +kernel
  obtain ⟨x, hx, hrefuses⟩ := hrefused
  obtain ⟨c, f, rfl, hc, hf⟩ := hrefuses.eq_call
  obtain ⟨before, after, hu⟩ := List.append_of_mem hx
  obtain ⟨hreport, i, closed, rollbacks, -, hconfiguring, hafter, hrollbacks⟩ :=
    h.2 before c f after hu hc hf
  exact ⟨h.1, before, c, f, i, closed, rollbacks, hafter ▸ hu, hreport, hconfiguring, hrollbacks⟩

end SqlGateway
