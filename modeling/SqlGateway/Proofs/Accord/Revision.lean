import SqlGateway.Proofs.Accord.PassOn
import SqlGateway.Proofs.Accord.Watched

/-!
# Answers of what is not supported, revised

A driver that does not support something says so. Were it said of an optional setting that it was
made, and of anything else that it has failed, nothing else would change: neither what is asked of
the driver nor what the caller gets.
-/

namespace SqlGateway

variable {σ τ ρ α β γ : Type} {A : ρ → Type} {d : Driver σ} {chosen : Nat → Bool}

/-! ## Revised answers -/

/-- The answers are the same, but for the kind of a failure. -/
def Akin (r r' : Except Failure α) : Prop :=
  r' = r ∨ ∃ f kind, r = .error f ∧ r' = .error { f with kind }

namespace Call

/-- The answer of an optional setting that was made. -/
def settled? : (c : Call) → Option c.Answer
  | .setTimeout .. | .setPoolable .. | .setEscapeProcessing .. | .setFetchSize ..
  | .setMaxRows .. =>
    some ()
  | _ => none

def amend (c : Call) : Except Failure c.Answer → Except Failure c.Answer
  | .ok a => .ok a
  | .error f =>
    if f.isUnsupported then
      match c.settled? with
      | some a => .ok a
      | none => .error { f with kind := .failed }
    else .error f

variable {c : Call}

theorem settled?_of_isOption (h : c.isOption = true) : ∃ a, c.settled? = some a := by
  cases c <;> first | exact ⟨(), rfl⟩ | cases h

theorem settled?_eq_none (h : c.isOption = false) : c.settled? = none := by
  cases c <;> first | rfl | cases h

theorem akin_amend (h : c.isOption = false) (r : Except Failure c.Answer) : Akin r (c.amend r) := by
  cases r with
  | ok a => exact .inl rfl
  | error f =>
      unfold amend
      dsimp only
      rw [settled?_eq_none h]
      split
      · exact .inr ⟨f, .failed, rfl, rfl⟩
      · exact .inl rfl

theorem of_amend_ok (h : c.isOption = false) {r : Except Failure c.Answer} {a : c.Answer}
    (hr : c.amend r = .ok a) : r = .ok a := by
  obtain hsame | ⟨f, kind, -, hkind⟩ := akin_amend h r
  · rwa [hsame] at hr
  · cases hkind.symm.trans hr

end Call

/-- The driver with the answers of the exchanges revised that are chosen by their number. -/
def Driver.revised (d : Driver σ) (chosen : Nat → Bool) : Driver (σ × Nat) where
  probe p s :=
    let (answer, database) := d.probe p s.1
    (answer, database, s.2 + 1)
  call c s :=
    let (answer, database) := d.call c s.1
    (if chosen s.2 then c.amend answer else answer, database, s.2 + 1)
  supply s := d.supply s.1
  supply_call c s := d.supply_call c s.1
  supply_next c s h := d.supply_next c s.1 (by
    dsimp only at h
    split at h
    · exact Call.of_amend_ok rfl h
    · exact h)
  supply_moreResults i s h := d.supply_moreResults i s.1 (by
    dsimp only at h
    split at h
    · exact Call.of_amend_ok rfl h
    · exact h)
  supply_probe p s := d.supply_probe p s.1

def Exchange.amended : Exchange → Exchange
  | .probe p answer => .probe p answer
  | .call c answer => .call c (c.amend answer)

def revise (chosen : Nat → Bool) (u : List Exchange) : List Exchange :=
  u.mapIdx fun k x => if chosen k then x.amended else x

/-- The second session is where the first one is, but for the answers that were revised. -/
structure Revised (chosen : Nat → Bool) (s : Session (Traced σ)) (s' : Session (Traced (σ × Nat))) :
    Prop where
  database : s'.database.database = (s.database.database, s.trace.length)
  statements : s.statements = s'.statements
  cursors : s.cursors = s'.cursors
  passed : s'.trace = revise chosen s.trace

namespace Revised

theorem unlogged : Unlogged (Revised (σ := σ) chosen) :=
  fun _ _ _ _ h => ⟨h.database, h.statements, h.cursors, h.passed⟩

theorem ask (p : Probe) :
    Abreast (Revised chosen) (d.traced.ask p) ((d.revised chosen).traced.ask p)
      (Same fun _ => Revised chosen) := by
  rintro ⟨⟨database, u⟩, statements, cursors, log⟩ ⟨⟨_, _⟩, _, _, log'⟩
    ⟨hdatabase, rfl, rfl, hpassed⟩
  obtain rfl := hdatabase
  obtain rfl := hpassed
  refine ⟨rfl, ?_, rfl, rfl, ?_⟩
  · change (_, u.length + 1) = (_, (u ++ [_]).length)
    rw [List.length_append, List.length_singleton]
    rfl
  · change revise chosen u ++ [_] = revise chosen (u ++ [_])
    unfold revise
    rw [List.mapIdx_concat]
    split <;> rfl

/-- A call gives the same answer in both sessions, or the revised one. -/
theorem outcome (c : Call) : Abreast (Revised chosen) (d.traced.perform c).run
    ((d.revised chosen).traced.perform c).run fun r r' s s' =>
      (r' = r ∨ r' = c.amend r) ∧ Revised chosen s s' := by
  rintro ⟨⟨database, u⟩, statements, cursors, log⟩ ⟨⟨_, _⟩, _, _, log'⟩
    ⟨hdatabase, rfl, rfl, hpassed⟩
  obtain rfl := hdatabase
  obtain rfl := hpassed
  refine ⟨?_, ?_, rfl, rfl, ?_⟩
  · change (if chosen u.length then _ else _) = _ ∨ (if chosen u.length then _ else _) = _
    split
    · exact .inr rfl
    · exact .inl rfl
  · change (_, u.length + 1) = (_, (u ++ [_]).length)
    rw [List.length_append, List.length_singleton]
    rfl
  · change revise chosen u ++ [.call c (if chosen u.length then _ else _)] =
      revise chosen (u ++ [_])
    unfold revise
    rw [List.mapIdx_concat]
    split <;> rfl

theorem akin {c : Call} (hc : c.isOption = false) : Abreast (Revised chosen)
    (d.traced.perform c).run ((d.revised chosen).traced.perform c).run fun r r' s s' =>
      Akin r r' ∧ Revised chosen s s' :=
  Abreast.weaken (outcome c) fun r _ _ _ ⟨hr, hs⟩ =>
    ⟨hr.elim .inl fun h => h ▸ Call.akin_amend hc r, hs⟩

/-- What is told of a failure is the same, revised or not. -/
theorem call {c : Call} (hc : c.isOption = false) : Concur (Revised chosen) (d.traced.perform c)
    ((d.revised chosen).traced.perform c) (fun _ => Revised chosen) fun _ => Revised chosen := by
  refine Abreast.weaken (akin hc) fun r r' s s' ⟨hr, hs⟩ => ?_
  obtain rfl | ⟨f, kind, rfl, rfl⟩ := hr
  · exact ⟨Likewise.refl _, by cases r' <;> exact hs⟩
  · exact ⟨rfl, hs⟩

theorem late (c : Call) : Abreast (Revised chosen) (d.traced.perform c).run
    ((d.revised chosen).traced.perform c).run fun _ _ => Revised chosen :=
  Abreast.weaken (outcome c) fun _ _ _ _ hs => hs.2

/-- A setting that was not supported passes, be that revised or not. -/
theorem option {c : Call} (hc : c.isOption = true) : Abreast (Revised chosen)
    (d.traced.perform c).run ((d.revised chosen).traced.perform c).run
    (Tolerable (Revised chosen) fun _ => Revised chosen) := by
  refine Abreast.weaken (outcome c) fun r r' s s' ⟨hr, hs⟩ => ?_
  obtain ⟨a, ha⟩ := Call.settled?_of_isOption hc
  have passes {f : Failure} (hf : f.isUnsupported = true) :
      Passes (.error f : Except Failure c.Answer) := fun f' hf' => Except.error.inj hf' ▸ hf
  cases r with
  | ok b =>
      obtain rfl : r' = .ok b := hr.elim id id
      exact .inl ⟨nofun, nofun, hs⟩
  | error f =>
      simp only [Call.amend, ha] at hr
      cases hf : f.isUnsupported with
      | true =>
          rw [if_pos hf] at hr
          obtain rfl | rfl := hr
          · exact .inl ⟨passes hf, passes hf, hs⟩
          · exact .inl ⟨passes hf, nofun, hs⟩
      | false =>
          rw [if_neg (by simp [hf]), or_self] at hr
          exact .inr ⟨f, f, rfl, hr, hf, hf, rfl, hs⟩

end Revised

/-- One session is a revision of the other all the time. -/
def revisedPhases (σ : Type) (chosen : Nat → Bool) : Phases (Traced σ) (Traced (σ × Nat)) where
  going := Revised chosen
  fresh _ := Revised chosen
  refused _ _ := Revised chosen
  failing _ := Revised chosen
  failed _ := Revised chosen
  spent _ := Revised chosen
  done := Revised chosen

theorem revised_accord (d : Driver σ) (chosen : Nat → Bool) :
    Accord d.traced (d.revised chosen).traced (revisedPhases σ chosen) where
  counts s s' hs := ⟨hs.statements, hs.cursors⟩
  countStatements _ s s' n hs := ⟨hs.database, rfl, hs.cursors, hs.passed⟩
  countCursors s s' n hs := ⟨hs.database, hs.statements, rfl, hs.passed⟩
  log_going := Revised.unlogged
  log_fresh _ := Revised.unlogged
  log_failing _ := Revised.unlogged
  log_failed _ := Revised.unlogged
  log_done := Revised.unlogged
  going_of_fresh _ _ _ hs := hs
  failed_of_failing _ _ _ hs := hs
  refusal _ _ _ _ hs := hs
  done_of_going _ _ hs := hs
  ask p _ := Revised.ask p
  isClosed := Abreast.weaken (Revised.ask .isClosed) fun closed _ s s' hs => ⟨hs.1, by
    cases closed <;> exact hs.2⟩
  prepare i sql kind keys := Revised.call rfl
  option c i hc _ := Revised.option hc
  closeRefused i e := Revised.late _
  call c hc _ := Revised.call hc
  late c e _ _ := Revised.late c
  exhausted i := Concur.weaken (Revised.call rfl) (fun more s s' hs => by cases more <;> exact hs)
    fun _ _ _ hs => hs
  closeSpent i := Revised.late _

theorem revised_concord (d : Driver σ) (chosen : Nat → Bool) :
    Concord d.traced (d.revised chosen).traced fun _ : Unit => revisedPhases σ chosen :=
  (revised_accord d chosen).concord Revised.ask
    (fun c hc => Revised.call (by cases c <;> first | rfl | cases hc)) fun c _ _ => Revised.late c

/-! ## Programs that do not look at the kind of a failure -/

/-- The program goes on in the same way after failures that differ in their kind only. -/
def Reading.Blind : Reading ρ A α → Prop
  | .done _ => True
  | .ask _ next =>
    (∀ f kind, next (.error { f with kind }) = next (.error f)) ∧ ∀ answer, (next answer).Blind

namespace Reading.Blind

theorem bind {reading : Reading ρ A α} {f : α → Reading ρ A β} (h : reading.Blind)
    (hf : ∀ a, (f a).Blind) : (reading >>= f).Blind := by
  induction reading with
  | done a => exact hf a
  | ask r next ih =>
      refine ⟨fun e kind => ?_, fun answer => ih answer (h.2 answer)⟩
      exact congrArg (Reading.bind · f) (h.1 e kind)

theorem bindAct {ε : Type} {reading : ExceptT ε (Reading ρ A) α}
    {f : α → ExceptT ε (Reading ρ A) β} (h : reading.run.Blind) (hf : ∀ a, (f a).run.Blind) :
    (reading >>= f).run.Blind := by
  refine bind h fun r => ?_
  cases r with
  | ok a => exact hf a
  | error e => trivial

theorem map {ε : Type} {reading : ExceptT ε (Reading ρ A) α} (f : α → β) (h : reading.run.Blind) :
    (f <$> reading).run.Blind := by
  rw [map_eq_pure_bind]
  exact bindAct h fun _ => trivial

theorem mapM {ε : Type} {f : α → ExceptT ε (Reading ρ A) β} (h : ∀ a, (f a).run.Blind)
    (as : List α) : (as.mapM f).run.Blind := by
  induction as with
  | nil => trivial
  | cons a as ih =>
      rw [List.mapM_cons]
      exact bindAct (h a) fun b => bindAct ih fun bs => trivial

/-- A kept result does not depend on any failure. -/
theorem ofExcept {ε : Type} (r : Except ε α) :
    (ExceptT.mk (pure r) : ExceptT ε (Reading ρ A) α).run.Blind :=
  trivial

end Reading.Blind

namespace Row

open Reading (Blind)

variable (row : Row)

theorem blind_read (reader : Reader) (index : Nat) : (surfaced (reader.read index)).run.Blind := by
  obtain ⟨r, next, hread, herror, hok⟩ := reader.read_asks index
  change ((reader.read index).run.bind _).Blind
  rw [hread]
  refine ⟨fun f kind => ?_, fun answer => ?_⟩
  · dsimp only
    rw [herror, herror]
    rfl
  · cases answer with
    | error f =>
        dsimp only
        rw [herror]
        trivial
    | ok a =>
        obtain ⟨result, hresult⟩ := hok a
        dsimp only
        rw [hresult]
        trivial

theorem blind_get (index : Nat) : (row.get index).run.Blind :=
  (Blind.ofExcept (row.checkIndex index)).bindAct fun _ => blind_read _ index

theorem blind_getAs {δ : Type} (convert : Value → Except Failure (Option δ)) (index : Nat) :
    (getAs convert row index).run.Blind := by
  refine (Blind.ofExcept (row.checkIndex index)).bindAct fun _ => ?_
  refine ⟨fun f kind => rfl, fun answer => ?_⟩
  cases answer <;> trivial

theorem blind_addColumns (index : Nat) (m : RowMap) (columns : List Column) :
    (row.addColumns index m columns).run.Blind := by
  induction columns generalizing index m with
  | nil => trivial
  | cons column columns ih =>
      unfold addColumns
      split
      · exact ih ..
      · exact (row.blind_get index).bindAct fun value => ih ..

theorem blind_toMap : row.toMap.run.Blind :=
  row.blind_addColumns 1 {} row.columns

end Row

/-- Accesses to a row tell of a failure what its message is, and nothing else. -/
theorem RowAccess.blind_mapper (accesses : List RowAccess) (row : Row) :
    (mapper accesses row).run.Blind := by
  refine .map _ (.mapM (fun access => ?_) accesses)
  cases access with
  | get index => exact .map _ (row.blind_get index)
  | getByLabel label => exact .map _ (.bindAct (.ofExcept (row.findColumn label)) row.blind_get)
  | findColumn label => exact .map _ (.ofExcept (row.findColumn label))
  | columns | columnCount | move m | edit e => trivial
  | toMap => exact .map _ row.blind_toMap
  | _ => exact .map _ (row.blind_getAs _ _)

theorem OutAccess.blind_mapper (accesses : List OutAccess) (slots : List OutSlot) :
    (mapper accesses slots).run.Blind := by
  have read (slot : OutSlot) : slot.read.run.Blind :=
    ⟨fun _ _ => rfl, fun answer => by cases answer <;> trivial⟩
  refine .map _ (.mapM (fun access => ?_) accesses)
  cases access with
  | get position =>
      refine .map _ ?_
      unfold OutSlot.get
      split
      · exact read _
      · trivial
  | getByName name =>
      refine .map _ ?_
      unfold OutSlot.getByName
      split
      · exact read _
      · trivial
  | values => exact .map _ (.mapM read slots)
  | slots | fail text => trivial

/-- Such a program comes to the same in both sessions. -/
theorem Reading.Blind.revised {answer : (r : ρ) → Act (Traced σ) Failure (A r)}
    {answer' : (r : ρ) → Act (Traced (σ × Nat)) Failure (A r)}
    (hanswer : ∀ r, Abreast (Revised chosen) (answer r).run (answer' r).run fun a a' s s' =>
      Akin a a' ∧ Revised chosen s s')
    {reading : Reading ρ A (Except Error α)} (h : reading.Blind) :
    Abreast (Revised chosen) (reading.run answer) (reading.run answer')
      (Same (Ends (fun _ => Revised chosen) fun _ => Revised chosen)) := by
  induction reading with
  | done r => exact Abreast.same fun _ _ hs => by cases r <;> exact hs
  | ask r next ih =>
      rw [Reading.run_ask, Reading.run_ask]
      refine Abreast.bind (hanswer r) fun a a' => Abreast.assuming fun ha => ?_
      have hnext : next a' = next a := by
        obtain rfl | ⟨f, kind, rfl, rfl⟩ := ha
        · rfl
        · exact h.1 f kind
      rw [hnext]
      exact ih a (h.2 a)

theorem revised_maps {mapper : RowMapper α} (h : ∀ row, (mapper row).run.Blind) :
    (revisedPhases σ chosen).Maps d.traced (d.revised chosen).traced mapper := by
  refine fun c row => Concur.of_same ((h row).revised fun r => ?_)
  cases r <;> exact Revised.akin rfl

theorem revised_reads {mapper : OutMapper α} (h : ∀ slots, (mapper slots).run.Blind) :
    (revisedPhases σ chosen).Reads d.traced (d.revised chosen).traced mapper := by
  have answered (i : StatementId) (r : OutRead) : Abreast (Revised chosen)
      (d.traced.answerOut i r).run ((d.revised chosen).traced.answerOut i r).run fun a a' s s' =>
        Akin a a' ∧ Revised chosen s s' := Revised.akin rfl
  exact fun i slots => ⟨Concur.of_same ((h slots).revised (answered i)),
    Concur.of_same ((h slots).revised (answered i))⟩

/-! ## Jobs -/

/-- The same session with a driver whose exchanges are counted from now on. -/
def Session.counted (s : Session σ) : Session (σ × Nat) :=
  { s with database := (s.database, 0) }

/-- Whatever answers are revised, a job gives the same and asks the driver for the same. -/
theorem revised_job (chosen : Nat → Bool) (job : Job τ γ)
    (hbrings : job.Brings (fun _ mapper => ∀ row, (mapper row).run.Blind)
      (fun _ mapper => ∀ slots, (mapper slots).run.Blind) fun _ => True)
    (d : Driver σ) (s : Session σ) :
    let run := job.run d.traced s.watched
    let revised := job.run (d.revised chosen).traced s.counted.watched
    revised.1 = run.1 ∧ revised.2.trace = revise chosen run.2.trace := by
  intro run revised
  have hstart : Revised chosen s.watched s.counted.watched := ⟨rfl, rfl, rfl, rfl⟩
  obtain ⟨hresult, hafter⟩ := (revised_concord d chosen).job () (revised_maps Row.blind_toMap) job
    (hbrings.mono (fun _ _ h _ => revised_maps h) (fun _ _ h _ => revised_reads h)
      fun _ _ _ _ _ hs => hs) _ _ hstart
  have hrevised : Revised chosen run.2 revised.2 := by
    revert hafter
    generalize job.report? run.1 = report
    rcases report with _ | e | _
    · exact fun h => h.elim id fun ⟨_, hs⟩ => hs
    · exact id
    · exact id
  exact ⟨hresult.symm, hrevised.passed⟩

end SqlGateway
