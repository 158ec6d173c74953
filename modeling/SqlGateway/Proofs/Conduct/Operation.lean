import SqlGateway.Client.Run
import SqlGateway.Proofs.Conduct.Cursor
import SqlGateway.Proofs.Conduct.Execution
import SqlGateway.Proofs.Gateway.Build

/-!
# Conduct of operations

What a gateway has built asks a driver for one statement, with the values that were built into it.
So an operation serves one request at most, and what it refuses on its own account it refuses before
it asks for anything.
-/

namespace SqlGateway

variable {σ τ α β : Type} {d : Driver σ} {q : Option Request} {P : Session σ → Prop}
  {E : Error → Session σ → Prop} {R : CursorId → Session σ → Prop}
  {V : StatementId → Session σ → Prop}

/-! ## Requests -/

/-- One statement with one row of values. -/
def Request.ofResolved (query : Sql.Resolved Value) (kind : StatementKind) : Request :=
  ⟨query.sql, kind, false, [query.values.map some]⟩

def Select.request (s : Select) : Request :=
  .ofResolved s.query .select

def Update.request (u : Update) (keyed : Bool) : Request :=
  ⟨u.sql, .dml, keyed, u.rows.map (·.map some)⟩

def ProcedureCall.request (c : ProcedureCall τ) : Request :=
  ⟨c.sql, .procedureCall, false, [c.params.map Parameter.value?]⟩

/-! ## Running what was built -/

namespace Conduct

theorem connect (h : Conduct d q P E R V) (provider : Provider) :
    Meets P (provider.connect d) (fun _ => P) E := by
  cases provider with
  | shared => exact Meets.pure fun _ hs => hs
  | onDemand => exact h.perform (c := .acquire) trivial

theorem select {s : Select} (h : Conduct d (some s.request) P E R V) :
    Meets P (s.execute d : Act σ Error (ResultCursor τ))
      (fun cursor t => cursor.handler = .unarmed ∧ P t) E :=
  Meets.bind (h.connect s.provider) fun _ =>
    h.executeQuery List.mem_cons_self rfl rfl s.options

theorem tended_of_unarmed {cursor : ResultCursor τ} (hc : cursor.handler = .unarmed) :
    cursor.Tended d P E V := by
  intro mapper harmed
  rw [hc] at harmed
  cases harmed

theorem single {s : Select} (h : Conduct d (some s.request) P E R V) {mapper : RowMapper α}
    (hmapper : Minds d P E R mapper) : Meets P (s.single d mapper) (fun _ => P) E := by
  have close (cursor : ResultCursor Empty) (first : Option α) :
      Meets P (do
        d.close cursor
        return first : Act σ Error (Option α)) (fun _ => P) E :=
    Meets.bind (h.close cursor) fun _ => Meets.pure fun _ hs => hs
  refine Meets.bind h.select fun cursor => ?_
  refine Meets.assuming fun hc => ?_
  refine Meets.bind (Meets.lift (h.nextRow (tended_of_unarmed hc))) fun r => ?_
  obtain ⟨row, cursor⟩ := r
  refine Meets.assuming fun _ => ?_
  refine Meets.bind (Q := CurrentRow.Met P R) ?_ fun row => ?_
  · cases row <;> exact fun _ hs => hs
  cases row with
  | none => exact close cursor none
  | some row =>
      refine Meets.lift_run (hmapper row.cursor row.row) (fun a => ?_) fun e => ?_
      · exact close cursor (some a)
      · exact Meets.bind (Meets.lift ((h.failed e).drop cursor)) fun _ => Meets.throw fun _ hs => hs

theorem update {u : Update} (h : Conduct d (some (u.request false)) P E R V)
    (hwidth : checkArity u.rows = .ok ()) : Meets P (u.execute d) (fun _ => P) E :=
  Meets.bind (h.connect u.provider) fun _ =>
    h.executeUpdate (fun _ hrow => List.mem_map_of_mem hrow) hwidth rfl rfl u.options

theorem updateWithKeys {u : Update} (h : Conduct d (some (u.request true)) P E R V)
    (hwidth : checkArity u.rows = .ok ()) (keys : GeneratedKeys) {mapper : RowMapper α}
    (hmapper : Minds d P E R mapper) (aggregate : List α → β) :
    Meets P (u.executeWithKeys d keys mapper aggregate) (fun _ => P) E :=
  Meets.bind (h.connect u.provider) fun _ =>
    h.executeUpdateWithKeys (fun _ hrow => List.mem_map_of_mem hrow) hwidth rfl rfl u.options keys
      hmapper aggregate

theorem call {c : ProcedureCall τ} (h : Conduct d (some c.request) P E R V) :
    Meets P (c.execute d)
      (fun cursor t => (∀ mapper, cursor.handler = .armed mapper → c.handler = some mapper) ∧ P t)
      E :=
  Meets.bind (h.connect c.provider) fun _ =>
    h.executeCall List.mem_cons_self rfl rfl c.options c.handler

theorem invokeWith {c : ProcedureCall τ} (h : Conduct d (some c.request) P E R V)
    {mapper : OutMapper α} (hmapper : MindsOut d P E V mapper) :
    Meets P (c.invokeWith d mapper) (fun _ => P) E :=
  Meets.bind (h.connect c.provider) fun _ =>
    h.invokeCall List.mem_cons_self rfl rfl c.options hmapper

theorem minds_nothing (h : Conduct d q P E R V) : MindsOut d P E V fun _ => pure () :=
  fun i _ => Meets.pure fun s hs => h.going_of_executed i s hs

theorem invoke {c : ProcedureCall τ} (h : Conduct d (some c.request) P E R V) :
    Meets P (c.invoke d) (fun _ => P) E :=
  h.invokeWith h.minds_nothing

end Conduct

def Outcome.Tended (d : Driver σ) (P : Session σ → Prop) (E : Error → Session σ → Prop)
    (V : StatementId → Session σ → Prop) : Outcome τ → Prop
  | .rowCount _ => True
  | .rows cursor => cursor.Tended d P E V

theorem Conduct.execute {sql : String} {params : Params} {query : Sql.Resolved Value}
    (hquery : Gateway.build sql params = .ok query) {kind : StatementKind}
    (hkind : Sql.classify query.sql = kind)
    (h : Conduct d (some (.ofResolved query kind)) P E R V) (g : Gateway) :
    Meets P (g.execute d sql params : Act σ Error (Outcome τ))
      (fun outcome s => outcome.Tended d P E V ∧ P s) E := by
  unfold Gateway.execute
  rw [hquery]
  refine Meets.bind (Q := fun a s => a = query ∧ P s) (Meets.pure fun _ hs => ⟨rfl, hs⟩) fun _ => ?_
  refine Meets.assuming fun ha => ?_
  dsimp only
  rw [ha, hkind]
  cases kind with
  | select =>
      have h : Conduct d (some (Select.mk g.provider query g.options).request) P E R V := h
      exact Meets.bind h.select fun cursor => Meets.pure fun _ hs =>
        ⟨tended_of_unarmed hs.1, hs.2⟩
  | dml =>
      let u : Update := ⟨g.provider, query.sql, [query.values], g.options⟩
      have h : Conduct d (some (u.request false)) P E R V := h
      exact Meets.bind (h.update (checkArity_of_width (List.forall_mem_singleton.mpr rfl)))
        fun count => Meets.pure fun _ hs => ⟨trivial, hs⟩
  | procedureCall =>
      let c : ProcedureCall τ :=
        ⟨g.provider, query.sql, query.values.map Parameter.input, g.options, none⟩
      have hrow : c.params.map Parameter.value? = query.values.map some := by
        rw [List.map_map]
        rfl
      have h : Conduct d (some c.request) P E R V := by
        unfold ProcedureCall.request
        rw [hrow]
        exact h
      exact Meets.bind h.call fun cursor => Meets.pure fun _ hs =>
        ⟨fun mapper harmed => absurd (hs.1 mapper harmed) nofun, hs.2⟩

/-! ## Updates -/

/-- All rows of an update have one width, however the update was built. -/
theorem exists_width_of_buildUpdate {g : Gateway} {sql : String} {values : UpdateValues}
    {u : Update}
    (h : Client.buildUpdate g sql values = .ok u) :
    ∃ width, ∀ row ∈ u.rows, row.length = width := by
  cases values with
  | single params =>
      obtain ⟨row, -, hrows, -⟩ := Gateway.update_eq_ok h
      exact ⟨row.length, hrows ▸ List.forall_mem_singleton.mpr rfl⟩
  | rows rows =>
      obtain ⟨-, hrows, -, hwidth, -⟩ := Gateway.updateBatch_eq_ok h
      exact ⟨_, hrows ▸ hwidth⟩
  | namedRows rows =>
      obtain ⟨clean, -, -, -, hrows⟩ := Gateway.updateNamedBatch_eq_ok h
      refine ⟨u.sql.toList.count '?' - clean.toList.count '?', fun row hrow => ?_⟩
      -- the values of a row are as many as the question marks that it brings into the common text
      obtain ⟨bindings, -, hrow⟩ := exists_of_forall₂_left hrows.flip hrow
      have := Sql.count_resolve hrow
      dsimp only at this
      omega

/-! ## What is asked of the driver for an operation -/

/-- Whether the generated keys are wanted. -/
def UpdateUse.keyed : UpdateUse α → Bool
  | .keys .. => true
  | _ => false

/-- What an operation asks of the driver, if anything but to go on with a cursor that is kept. -/
def Operation.request (g : Gateway) : Operation α → Except Error (Option Request)
  | .select sql params _ _ => (fun s => some s.request) <$> g.select sql params
  | .update sql values _ use =>
    (fun u => some (u.request use.keyed)) <$> Client.buildUpdate g sql values
  | .call sql params _ _ _ =>
    (fun c : ProcedureCall α => some c.request) <$> g.call sql params
  | .execute sql params _ =>
    (fun query => some (.ofResolved query (Sql.classify query.sql))) <$> Gateway.build sql params
  | _ => return none

def OutHandler.armed? : OutHandler τ → Option (OutMapper τ)
  | .armed mapper => some mapper
  | _ => none

/-- What the caller has the library map rows with. -/
def Operation.mapper? : Operation α → Option (RowMapper α)
  | .select _ _ _ (.single mapper) | .update _ _ _ (.keys _ mapper) | .map _ mapper _ _ =>
    some mapper
  | _ => none

/-- What the caller has the library read output values with. -/
def Operation.handler? (cursors : Registry Nat (ResultCursor α)) :
    Operation α → Option (OutMapper α)
  | .call _ _ _ handler (.fetch _) => handler
  | .call _ _ _ _ (.invokeWith mapper) => some mapper
  | .next id _ | .maps id | .map id _ _ _ => (cursors.get? id).bind (·.handler.armed?)
  | _ => none

end SqlGateway
