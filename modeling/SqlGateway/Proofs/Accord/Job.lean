import SqlGateway.Proofs.Accord.Work

/-!
# Jobs

What a caller can have the library do in one go, as data: the operations of a gateway, work on the
connection itself, and what is done with a cursor that was kept.
-/

namespace SqlGateway

/-- `τ` is what handlers for output values give, `γ` is what the job gives. -/
inductive Job (τ : Type) : Type → Type 1 where
  | select (q : Select) : Job τ (Except Error (ResultCursor τ))
  | single {α : Type} (q : Select) (mapper : RowMapper α) : Job τ (Except Error (Option α))
  | update (u : Update) : Job τ (Except Error UInt64)
  | updateWithKeys {α β : Type} (u : Update) (keys : GeneratedKeys) (mapper : RowMapper α)
      (aggregate : List α → β) : Job τ (Except Error β)
  | call (c : ProcedureCall τ) : Job τ (Except Error (ResultCursor τ))
  | invoke {α : Type} (c : ProcedureCall τ) (mapper : OutMapper α) : Job τ (Except Error α)
  | execute (g : Gateway) (sql : String) (params : Params) : Job τ (Except Error (Outcome τ))
  | work {α : Type} (w : Work τ α) : Job τ (Except Error α)
  | next (cursor : ResultCursor τ) : Job τ (Except Error (Option CurrentRow) × ResultCursor τ)
  /-- Reads from the row that a cursor is on. -/
  | read {α : Type} (current : CurrentRow) (mapper : RowMapper α) : Job τ (Except Error α)
  | map {α : Type} (cursor : ResultCursor τ) (mapper : RowMapper α) (limit : Option Nat) :
      Job τ (List (Except Error α) × ResultCursor τ)
  | maps (cursor : ResultCursor τ) : Job τ (Except Error (List RowMap) × ResultCursor τ)
  | close (cursor : ResultCursor τ) : Job τ (Except Error Unit)
  | drop (cursor : ResultCursor τ) : Job τ Unit

variable {σ σ' τ γ ι : Type}

namespace Job

def run (d : Driver σ) : Job τ γ → Plain σ γ
  | .select q => (q.execute d).run
  | .single q mapper => (q.single d mapper).run
  | .update u => (u.execute d).run
  | .updateWithKeys u keys mapper aggregate => (u.executeWithKeys d keys mapper aggregate).run
  | .call c => (c.execute d).run
  | .invoke c mapper => (c.invokeWith d mapper).run
  | .execute g sql params => (g.execute d sql params).run
  | .work w => (w.run d).run
  | .next cursor => d.nextRow cursor
  | .read current mapper => (d.readRow current.cursor (mapper current.row)).run
  | .map cursor mapper limit => d.mapRows mapper limit cursor
  | .maps cursor => d.rowMaps cursor
  | .close cursor => (d.close cursor).run
  | .drop cursor => d.drop cursor

/-- What an outcome tells of success or failure. -/
def told {α : Type} (r : Except Error α) : Option (Except Error Unit) :=
  some (r.map fun _ => ())

/-- Whether a job has come to an error. A cursor that is dropped reports nothing. -/
def report? : Job τ γ → γ → Option (Except Error Unit)
  | .select _, r | .call _, r => told r
  | .single _ _, r => told r
  | .update _, r => told r
  | .updateWithKeys _ _ _ _, r | .invoke _ _, r | .read _ _, r => told r
  | .execute _ _ _, r => told r
  | .work _, r => told r
  | .next _, r => told r.1
  | .map _ _ _, r => told (Driver.collect r.1)
  | .maps _, r => told r.1
  | .close _, r => told r
  | .drop _, _ => none

/-- What the caller brings along has the property that goes with its kind. -/
def Brings (mapping : (α : Type) → RowMapper α → Prop) (reading : (α : Type) → OutMapper α → Prop)
    (raising : Error → Prop) : Job τ γ → Prop
  | .single _ mapper | .updateWithKeys _ _ mapper _ | .read _ mapper => mapping _ mapper
  | .invoke _ mapper => reading _ mapper
  | .work w => w.Brings mapping reading raising
  | .next cursor | .maps cursor => ∀ mapper, cursor.handler = .armed mapper → reading _ mapper
  | .map cursor mapper _ =>
    mapping _ mapper ∧ ∀ mapper, cursor.handler = .armed mapper → reading _ mapper
  | _ => True

theorem Brings.mono {mapping mapping' : (α : Type) → RowMapper α → Prop}
    {reading reading' : (α : Type) → OutMapper α → Prop} {raising raising' : Error → Prop}
    (hmapping : ∀ α mapper, mapping α mapper → mapping' α mapper)
    (hreading : ∀ α mapper, reading α mapper → reading' α mapper)
    (hraising : ∀ e, raising e → raising' e) {job : Job τ γ}
    (h : job.Brings mapping reading raising) : job.Brings mapping' reading' raising' := by
  cases job with
  | single q mapper | updateWithKeys u keys mapper aggregate | read current mapper =>
      exact hmapping _ mapper h
  | invoke c mapper => exact hreading _ mapper h
  | work w => exact Work.Brings.mono hmapping hreading hraising h
  | next cursor | maps cursor => exact fun mapper harmed => hreading _ mapper (h mapper harmed)
  | map cursor mapper limit =>
      exact ⟨hmapping _ mapper h.1, fun mapper harmed => hreading _ mapper (h.2 mapper harmed)⟩
  | _ => trivial

end Job

/-- What holds after a job, by what it reports. -/
def Phases.After (v : Phases σ σ') : Option (Except Error Unit) → Session σ → Session σ' → Prop
  | some r => Ends (fun _ => v.done) v.failed r
  | none => v.Left

variable {d : Driver σ} {d' : Driver σ'} {v : ι → Phases σ σ'}

/-- An outcome of an act is the result of a job. -/
theorem Concur.told {v : Phases σ σ'} {α : Type} {act : Act σ Error α} {act' : Act σ' Error α}
    {P : Session σ → Session σ' → Prop} (h : Concur P act act' (fun _ => v.done) v.failed) :
    Abreast P act.run act'.run (Same fun r => v.After (Job.told r)) := by
  refine Abreast.weaken h fun r r' s s' hs => ?_
  cases r <;> cases r' <;> first | exact ⟨congrArg _ hs.1, hs.2⟩ | exact hs.1.elim

theorem Accord.after {v : Phases σ σ'} (h : Accord d d' v) {α : Type} {r : Except Error α}
    {Q : α → Session σ → Session σ' → Prop} {s : Session σ} {s' : Session σ'}
    (hQ : ∀ a, Q a s s' → v.done s s') (hs : Ends Q v.failing r s s') :
    v.After (Job.told r) s s' := by
  cases r with
  | ok a => exact hQ a hs
  | error e => exact h.failed_of_failing e s s' hs

/-- A job gives the same on both drivers. -/
theorem Concord.job (h : Concord d d' v) (x : ι) (hmaps : (v x).Maps d d' Row.toMap) (job : Job τ γ)
    (hbrings : job.Brings (fun _ mapper => ∀ x, (v x).Maps d d' mapper)
      (fun _ mapper => ∀ x, (v x).Reads d d' mapper)
      fun e => ∀ x s s', (v x).going s s' → (v x).failed e s s') :
    Abreast (v x).going (job.run d) (job.run d')
      (Same fun r => (v x).After (job.report? r)) := by
  have hx := h.accord x
  have success {α : Type} {act : Act σ Error α} {act' : Act σ' Error α}
      (hact : Concur (v x).going act act' (fun _ => (v x).going) (v x).failed) :
      Abreast (v x).going act.run act'.run (Same fun r => (v x).After (Job.told r)) :=
    Concur.told (Concur.weaken hact (fun _ => hx.done_of_going) fun _ _ _ hs => hs)
  have tends {cursor : ResultCursor τ} (hreads : ∀ mapper, cursor.handler = .armed mapper →
      ∀ x, (v x).Reads d d' mapper) : (v x).Tends d d' cursor :=
    fun mapper harmed => hreads mapper harmed x
  cases job with
  | select q => exact success (Concur.weaken (hx.select q) (fun _ _ _ hs => hs.2.2)
      fun _ _ _ hs => hs)
  | single q mapper => exact Concur.told (hx.single q (hbrings x))
  | update u => exact success (h.update x u)
  | updateWithKeys u keys mapper aggregate =>
      exact success (h.updateWithKeys x hbrings u keys aggregate)
  | call c => exact success (hx.procedureCall c)
  | invoke c mapper => exact success (hx.invoke c (hbrings x))
  | execute g sql params => exact success (h.execute x g sql params)
  | work w => exact success (h.work w hbrings x)
  | next cursor =>
      refine Abreast.weaken (hx.nextRow (tends hbrings)) fun r r' s s' hs =>
        ⟨hs.1, hx.after (fun row => ?_) hs.2.2⟩
      cases row with
      | none => exact id
      | some row => exact hx.done_of_going s s'
  | read current mapper =>
      exact success (Concur.weaken (hbrings x current.cursor current.row) (fun _ _ _ hs => hs)
        hx.failed_of_failing)
  | map cursor mapper limit =>
      exact Abreast.weaken (hx.mapRows (hbrings.1 x) limit (tends hbrings.2)) fun r r' s s' hs =>
        ⟨hs.1, hx.after (fun _ => id) hs.2⟩
  | maps cursor =>
      exact Abreast.weaken (hx.rowMaps hmaps (tends hbrings)) fun r r' s s' hs =>
        ⟨hs.1, hx.after (fun _ => id) hs.2⟩
  | close cursor =>
      exact success (Concur.weaken (hx.close cursor) (fun _ _ _ hs => hs) hx.failed_of_failing)
  | drop cursor => exact hx.drop cursor

end SqlGateway
