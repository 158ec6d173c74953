import SqlGateway.Proofs.Conduct.Operation

/-!
# Conduct of clients

An operation of a client that could be built serves the request that was built from it. What it
reports is a failed execution, or an error that one of the caller's programs came to.
-/

namespace SqlGateway

variable {σ α β : Type} {d : Driver σ} {q : Option Request} {P : Session σ → Prop}
  {E : Error → Session σ → Prop} {R : CursorId → Session σ → Prop}
  {V : StatementId → Session σ → Prop}

/-- The errors that a reply brings; what the caller has read from a row by itself is not among
them. -/
def Reply.errors : Reply α → List Error
  | .items results => results.filterMap errorOf
  | _ => []
where
  errorOf : Except Error α → Option Error
    | .error e => some e
    | .ok _ => none

/-- All errors that an outcome reports. -/
def reported : Except Refusal (Reply α) → List Error
  | .error (.error e) => [e]
  | .error .noHandle => []
  | .ok reply => reply.errors

theorem map_eq_ok {ε : Type} {x : Except ε α} {f : α → β} {b : β} (h : f <$> x = .ok b) :
    ∃ a, x = .ok a ∧ b = f a := by
  cases x with
  | error e => cases h
  | ok a =>
      cases h
      exact ⟨a, rfl, rfl⟩

theorem map_eq_error {ε : Type} {x : Except ε α} {f : α → β} {e : ε} (h : f <$> x = .error e) :
    x = .error e := by
  cases x with
  | error e =>
      cases h
      rfl
  | ok a => cases h

namespace Client

/-! ## Conditions on clients -/

def On (P : Session σ → Prop) (client : Client σ α) : Prop :=
  P client.session

def Refused (P : Session σ → Prop) (E : Error → Session σ → Prop) : Refusal → Client σ α → Prop
  | .noHandle => On P
  | .error e => On (E e)

def Replied (P : Session σ → Prop) (E : Error → Session σ → Prop) (reply : Reply α)
    (client : Client σ α) : Prop :=
  On P client ∧ ∀ e ∈ reply.errors, On (E e) client

/-! ## Acts -/

section

variable {P' : Client σ α → Prop} {E' : Refusal → Client σ α → Prop}

theorem act_meets {act : Act σ Error β} {Q : β → Session σ → Prop} (h : Meets P act Q E) :
    Meets (On P) (Client.act act : Doing σ α β) (fun b => On (Q b)) (Refused P E) := by
  intro client hs
  have hr := h client.session hs
  revert hr
  change _ → Ended _ _ ((act.run client.session).1.mapError _)
    { client with session := (act.run client.session).2 }
  cases (act.run client.session).1 <;> exact id

theorem plain_meets {act : Plain σ β} {Q : β → Session σ → Prop} (h : Triple P act Q) :
    Meets (On P) (Client.plain act : Doing σ α β) (fun b => On (Q b)) E' :=
  fun client hs => h client.session hs

/-- A reply that brings no error may be given at any time. -/
theorem reply_meets {reply : Reply α} (hreply : reply.errors = []) :
    Meets (On P) (Pure.pure reply) (Replied P E) E' :=
  Meets.pure fun _ hs => ⟨hs, fun _ he => absurd (hreply ▸ he) List.not_mem_nil⟩

theorem accept_meets {result : Except Error β} {b : β} (h : result = .ok b) :
    Meets P' (Client.accept result) (fun b' client => b' = b ∧ P' client) E' := by
  rw [h]
  exact Meets.pure fun _ hs => ⟨rfl, hs⟩

/-- What goes on with something that the gateway has built. -/
theorem built_meets {γ : Type} {g : Gateway} {x : Gateway → Except Error β} {b : β}
    (hb : x g = .ok b) {f : β → Doing σ α γ} {Q : γ → Client σ α → Prop}
    (hf : Meets (On P) (f b) Q E') :
    Meets (fun c => c.gateway = g ∧ On P c)
      (get >>= fun client => Client.accept (x client.gateway) >>= f) Q E' := by
  refine Meets.bind (Meets.getState (Q := fun c c' => c.gateway = g ∧ On P c') fun _ hs => hs)
    fun client => ?_
  refine Meets.assuming fun hg => ?_
  refine Meets.bind (accept_meets (hg ▸ hb)) fun built => ?_
  exact Meets.assuming fun hbuilt => hbuilt ▸ hf

theorem report_meets {Q : β → Session σ → Prop} (result : Except Error β) :
    Meets (On (Ended Q E result)) (Client.accept result : Doing σ α β) (fun b => On (Q b))
      (Refused P E) := by
  cases result with
  | ok b => exact Meets.pure fun _ hs => hs
  | error e => exact Meets.throw fun _ hs => hs

theorem print_meets (text : String) :
    Meets (On P) (Client.print text : Doing σ α Unit) (fun _ => On P) E' :=
  Meets.modifyState fun _ hs => hs

theorem advance_meets {cursor : ResultCursor α}
    {move : ResultCursor α → Plain σ (β × ResultCursor α)}
    {Q : β × ResultCursor α → Session σ → Prop} (h : Triple P (move cursor) Q) :
    Meets (On P) (Client.advance cursor move) (fun r => On (Q r)) E' := by
  refine Meets.bind (plain_meets h) fun r => ?_
  dsimp only
  split
  · exact Meets.bind (Q := fun _ => On (Q r)) (Meets.modifyState fun _ hs => hs) fun _ =>
      Meets.pure fun _ hs => hs
  · exact Meets.pure fun _ hs => hs

theorem cursor_meets (client : Client σ α) (id : Nat) :
    Meets (fun c => c = client ∧ On P c) (Client.cursor id)
      (fun cursor c => client.cursors.get? id = some cursor ∧ On P c) (Refused P E) := by
  refine Meets.bind (Meets.getState (Q := fun s c => s = client ∧ On P c) fun _ hs => hs)
    fun s => ?_
  refine Meets.assuming fun hc => ?_
  rw [hc]
  cases client.cursors.get? id with
  | none => exact Meets.throw fun _ hs => hs
  | some cursor => exact Meets.pure fun _ hs => ⟨rfl, hs⟩

theorem takeCursor_meets (client : Client σ α) (id : Nat) :
    Meets (fun c => c = client ∧ On P c) (Client.takeCursor id)
      (fun cursor c => client.cursors.get? id = some cursor ∧ On P c) (Refused P E) := by
  refine Meets.bind (cursor_meets client id) fun cursor => ?_
  refine Meets.assuming fun hget => ?_
  exact Meets.bind (Q := fun _ => On P) (Meets.modifyState fun _ hs => hs) fun _ =>
    Meets.pure fun _ hs => ⟨hget, hs⟩

end

end Client

namespace Conduct

open Client

/-! ## Cursors -/

section

variable (h : Conduct d q P E R V)
include h

theorem keepCursor (id : Nat) (cursor : ResultCursor α) :
    Meets (On P) (Client.keepCursor d id cursor) (fun _ => On P) (Refused P E) := by
  refine Meets.bind (Meets.getState (Q := fun _ => On P) fun _ hs => hs) fun client => ?_
  refine Meets.bind (Q := fun _ => On P) (Meets.modifyState fun _ hs => hs) fun _ => ?_
  cases client.cursors.get? id with
  | none => exact Meets.pure fun _ hs => hs
  | some old => exact plain_meets (h.going.drop old)

theorem maps {cursor : ResultCursor α} (ht : cursor.Tended d P E V) :
    Meets (On P) (Client.maps d cursor) (fun _ => On P) (Refused P E) := by
  refine Meets.bind (advance_meets (h.rowMaps ht)) fun r => ?_
  obtain ⟨rows, after⟩ := r
  have dropped : Triple (fun s => after.Tended d P E V ∧ Ended (fun _ => P) E rows s) (d.drop after)
      fun _ => Ended (fun _ => P) E rows := by
    refine Triple.assuming fun _ => ?_
    cases rows with
    | ok rows => exact h.going.drop after
    | error e => exact (h.failed e).drop after
  exact Meets.bind (plain_meets dropped) fun _ => report_meets rows

theorem fetch {cursor : ResultCursor α} (ht : cursor.Tended d P E V) (wanted : Fetch) :
    Meets (On P) (Client.fetch d cursor wanted) (fun _ => On P) (Refused P E) := by
  cases wanted with
  | keep id => exact Meets.bind (h.keepCursor id cursor) fun _ => Meets.pure fun _ hs => hs
  | maps => exact Meets.bind (h.maps ht) fun _ => Meets.pure fun _ hs => hs

theorem readAll (c : CurrentRow) (reads : List (RowMapper α)) :
    Meets (On P) (reads.mapM fun mapper =>
      (Client.plain (d.readRow c.cursor (mapper c.row)).run : Doing σ α (Except Error α)))
      (fun _ => On P) (Refused P E) := by
  induction reads with
  | nil => exact Meets.pure fun _ hs => hs
  | cons mapper reads ih =>
      have kept : Keeps P (d.readRow c.cursor (mapper c.row)) :=
        Keeps.readRow (fun call hc => h.going.call call (Call.serves_of_worksOn hc)) _
      rw [List.mapM_cons]
      refine Meets.bind (plain_meets kept.run) fun _ => ?_
      exact Meets.bind ih fun _ => Meets.pure fun _ hs => hs

variable {client : Client σ α} {id : Nat}
  (ht : ∀ cursor, client.cursors.get? id = some cursor → cursor.Tended d P E V)
include ht

theorem next (reads : List (RowMapper α)) :
    Meets (fun c => c = client ∧ On P c) (Client.next d id reads) (Replied P E) (Refused P E) := by
  refine Meets.bind (cursor_meets client id) fun cursor => ?_
  refine Meets.assuming fun hget => ?_
  refine Meets.bind (advance_meets (h.nextRow (ht cursor hget))) fun r => ?_
  obtain ⟨row, after⟩ := r
  refine Meets.bind (Q := fun _ => On (Ended (CurrentRow.Met P R) E row))
    (Meets.modifyState fun _ hs => hs.2) fun _ => ?_
  refine Meets.bind (report_meets row) fun current => ?_
  cases current with
  | none => exact reply_meets rfl
  | some row =>
      refine Meets.strengthen (P := On P) ?_ fun _ hs => h.going_of_reached _ _ hs
      exact Meets.bind (h.readAll row reads) fun _ => reply_meets rfl

theorem map {mapper : RowMapper α} (hmapper : Minds d P E R mapper) (limit : Option Nat)
    (keep : Bool) :
    Meets (fun c => c = client ∧ On P c) (Client.map d id mapper limit keep) (Replied P E)
      (Refused P E) := by
  refine Meets.bind (takeCursor_meets client id) fun cursor => ?_
  refine Meets.assuming fun hget => ?_
  refine Meets.bind (advance_meets (h.mapRows hmapper limit (ht cursor hget))) fun r => ?_
  obtain ⟨items, after⟩ := r
  have errors_mem {e : Error} (he : e ∈ (Reply.items items).errors) : .error e ∈ items := by
    obtain ⟨item, hitem, hsome⟩ := List.mem_filterMap.mp he
    cases item <;> cases hsome
    exact hitem
  cases keep with
  | true =>
      refine Meets.bind (Q := fun _ => Replied P E (.items items)) ?_ fun _ =>
        Meets.pure fun _ hs => hs
      exact Meets.modifyState fun _ hs => ⟨hs.2.1, fun e he => hs.2.2 e (errors_mem he)⟩
  | false =>
      refine Meets.bind (Q := fun _ => Replied P E (.items items)) ?_ fun _ =>
        Meets.pure fun _ hs => hs
      -- what came up before holds after the cursor was dropped as well
      intro client' hs
      refine ⟨h.going.drop after _ hs.2.1, fun e he => ?_⟩
      exact (h.failed e).drop after _ (hs.2.2 e (errors_mem he))

end

/-! ## Operations -/

section

variable {sql : String} {g : Gateway}

theorem selectStep {params : Params} {s : Select} (hs : g.select sql params = .ok s)
    (h : Conduct d (some s.request) P E R V) (setup : Setup) {use : SelectUse α}
    (hmapper : ∀ mapper, use = .single mapper → Minds d P E R mapper) :
    Meets (fun c => c.gateway = g ∧ On P c) (Client.select d sql params setup use) (Replied P E)
      (Refused P E) := by
  refine built_meets (x := fun g => g.select sql params) hs ?_
  have h : Conduct d (some (s.configure setup.settings).request) P E R V := h
  extract_lets query run
  have hrun (u : PUnit) : Meets (On P) (run u) (Replied P E) (Refused P E) := by
    cases use with
    | text => exact reply_meets rfl
    | fetch wanted =>
        refine Meets.bind (act_meets h.select) fun cursor => ?_
        refine Meets.assuming fun hc => ?_
        exact Meets.bind (h.fetch (tended_of_unarmed hc) wanted) fun _ => reply_meets rfl
    | single mapper =>
        exact Meets.bind (act_meets (h.single (hmapper mapper rfl))) fun _ => reply_meets rfl
  split
  · exact Meets.bind (print_meets _) hrun
  · exact hrun ⟨⟩

theorem updateStep {values : UpdateValues} {u : Update}
    (hu : Client.buildUpdate g sql values = .ok u) (hwidth : checkArity u.rows = .ok ())
    (setup : Setup) {use : UpdateUse α} (h : Conduct d (some (u.request use.keyed)) P E R V)
    (hmapper : ∀ keys mapper, use = .keys keys mapper → Minds d P E R mapper) :
    Meets (fun c => c.gateway = g ∧ On P c) (Client.update d sql values setup use) (Replied P E)
      (Refused P E) := by
  refine built_meets (x := fun g => Client.buildUpdate g sql values) hu ?_
  have h : Conduct d (some ((u.configure setup.settings).request use.keyed)) P E R V := h
  extract_lets update run
  have hrun (u : PUnit) : Meets (On P) (run u) (Replied P E) (Refused P E) := by
    cases use with
    | text => exact reply_meets rfl
    | execute =>
        exact Meets.bind (act_meets (h.update hwidth)) fun _ => reply_meets rfl
    | keys keys mapper =>
        exact Meets.bind (act_meets (h.updateWithKeys hwidth keys (hmapper keys mapper rfl) id))
          fun _ => reply_meets rfl
  split
  · exact Meets.bind (print_meets _) hrun
  · exact hrun ⟨⟩

theorem callStep {params : List Parameter} {c : ProcedureCall α} (hc : g.call sql params = .ok c)
    (h : Conduct d (some c.request) P E R V) (setup : Setup) {handler : Option (OutMapper α)}
    {use : CallUse α} (hhandler : ∀ wanted, use = .fetch wanted → ∀ mapper ∈ handler,
      MindsOut d P E V mapper)
    (hinvoked : ∀ mapper, use = .invokeWith mapper → MindsOut d P E V mapper) :
    Meets (fun c => c.gateway = g ∧ On P c) (Client.call d sql params setup handler use)
      (Replied P E) (Refused P E) := by
  refine built_meets (x := fun g => g.call sql params) hc ?_
  obtain ⟨-, -, -, hnone, -⟩ := Gateway.call_eq_ok hc
  extract_lets shown call run
  have h : Conduct d (some call.request) P E R V := by
    cases handler <;> exact h
  have harmed : call.handler = handler := by
    cases handler with
    | none => exact hnone
    | some mapper => rfl
  have hrun (u : PUnit) : Meets (On P) (run u) (Replied P E) (Refused P E) := by
    cases use with
    | text => exact reply_meets rfl
    | fetch wanted =>
        refine Meets.bind (act_meets h.call) fun cursor => ?_
        refine Meets.assuming fun hcursor => ?_
        have ht : cursor.Tended d P E V := fun mapper hm =>
          hhandler wanted rfl mapper (harmed ▸ hcursor mapper hm)
        exact Meets.bind (h.fetch ht wanted) fun _ => reply_meets rfl
    | invoke =>
        exact Meets.bind (act_meets h.invoke) fun _ => reply_meets rfl
    | invokeWith mapper =>
        exact Meets.bind (act_meets (h.invokeWith (hinvoked mapper rfl))) fun _ => reply_meets rfl
  split
  · exact Meets.bind (print_meets _) hrun
  · exact hrun ⟨⟩

theorem executeStep {params : Params} {query : Sql.Resolved Value}
    (hquery : Gateway.build sql params = .ok query)
    (h : Conduct d (some (.ofResolved query (Sql.classify query.sql))) P E R V) (wanted : Fetch) :
    Meets (On P) (Client.execute d sql params wanted : Doing σ α (Reply α)) (Replied P E)
      (Refused P E) := by
  refine Meets.bind (Meets.getState (Q := fun _ => On P) fun _ hs => hs) fun client => ?_
  refine Meets.bind (act_meets (h.execute hquery rfl client.gateway)) fun outcome => ?_
  refine Meets.assuming fun ht => ?_
  cases outcome with
  | rowCount count => exact reply_meets rfl
  | rows cursor =>
      exact Meets.bind (h.fetch ht wanted) fun _ => reply_meets rfl

end

/-- An operation that could be built keeps to the conduct, if the caller's programs do. -/
theorem operate {client : Client σ α} {operation : Operation α}
    (hq : operation.request client.gateway = .ok q) (h : Conduct d q P E R V)
    (hmapper : ∀ mapper ∈ operation.mapper?, Minds d P E R mapper)
    (hhandler : ∀ mapper ∈ operation.handler? client.cursors, MindsOut d P E V mapper) :
    Meets (fun c => c = client ∧ On P c) (Client.operate d operation) (Replied P E)
      (Refused P E) := by
  have hgateway (c : Client σ α) (hs : c = client ∧ On P c) :
      c.gateway = client.gateway ∧ On P c := ⟨congrArg _ hs.1, hs.2⟩
  have htended (id : Nat) (hid : ∀ cursor, client.cursors.get? id = some cursor →
      ∀ mapper ∈ cursor.handler.armed?, mapper ∈ operation.handler? client.cursors) :
      ∀ cursor, client.cursors.get? id = some cursor → cursor.Tended d P E V := by
    intro cursor hget mapper harmed
    exact hhandler mapper (hid cursor hget mapper (by rw [harmed]; rfl))
  cases operation with
  | select sql params setup use =>
      obtain ⟨s, hs, rfl⟩ := map_eq_ok hq
      refine Meets.strengthen (h.selectStep hs setup fun mapper huse => ?_) hgateway
      exact hmapper mapper (by rw [huse]; rfl)
  | update sql values setup use =>
      obtain ⟨u, hu, rfl⟩ := map_eq_ok hq
      obtain ⟨width, hwidth⟩ := exists_width_of_buildUpdate hu
      refine Meets.strengthen (h.updateStep hu (checkArity_of_width hwidth) setup
        fun keys mapper huse => ?_) hgateway
      exact hmapper mapper (by rw [huse]; rfl)
  | call sql params setup handler use =>
      obtain ⟨c, hc, rfl⟩ := map_eq_ok hq
      refine Meets.strengthen (h.callStep hc setup (fun wanted huse mapper hm => ?_)
        fun mapper huse => ?_) hgateway
      · exact hhandler mapper (by rw [huse]; exact hm)
      · exact hhandler mapper (by rw [huse]; rfl)
  | execute sql params wanted =>
      obtain ⟨query, hquery, rfl⟩ := map_eq_ok hq
      exact Meets.strengthen (h.executeStep hquery wanted) fun _ hs => hs.2
  | next id reads =>
      exact h.next (htended id fun cursor hget mapper hm => by
        simpa [Operation.handler?, hget] using hm) reads
  | isClosed id =>
      exact Meets.bind (cursor_meets client id) fun cursor =>
        Meets.strengthen (reply_meets rfl) fun _ hs => hs.2
  | close id =>
      refine Meets.bind (takeCursor_meets client id) fun cursor => ?_
      refine Meets.assuming fun _ => ?_
      exact Meets.bind (act_meets (h.close cursor)) fun _ => reply_meets rfl
  | drop id =>
      refine Meets.bind (takeCursor_meets client id) fun cursor => ?_
      refine Meets.assuming fun _ => ?_
      exact Meets.bind (plain_meets (h.going.drop cursor)) fun _ => reply_meets rfl
  | maps id =>
      have ht := htended id fun cursor hget mapper hm => by
        simpa [Operation.handler?, hget] using hm
      refine Meets.bind (takeCursor_meets client id) fun cursor => ?_
      refine Meets.assuming fun hget => ?_
      exact Meets.bind (h.maps (ht cursor hget)) fun _ => reply_meets rfl
  | map id mapper limit keep =>
      have ht := htended id fun cursor hget mapper hm => by
        simpa [Operation.handler?, hget] using hm
      exact h.map ht (hmapper mapper rfl) limit keep

end Conduct

/-! ## Operations that cannot be built -/

theorem act_error {act : Act σ Error α} {client : Client σ β} {e : Error} {s : Session σ}
    (h : act.run client.session = (.error e, s)) :
    (Client.act act).run client = (.error (.error e), { client with session := s }) := by
  change (((act.run client.session).1.mapError _),
    { client with session := (act.run client.session).2 }) = _
  rw [h]
  rfl

theorem accept_error {result : Except Error α} {e : Error} (h : result = .error e)
    (f : α → Doing σ β (Reply β)) (client : Client σ β) :
    (Client.accept result >>= f).run client = (.error (.error e), client) := by
  rw [h]
  rfl

/-- What is wrong with a text or with parameters is reported before anything else is done. -/
theorem operate_of_request_error {client : Client σ α} {operation : Operation α} {e : Error}
    (he : operation.request client.gateway = .error e) :
    (Client.operate d operation).run client = (.error (.error e), client) := by
  cases operation with
  | select => exact accept_error (map_eq_error he) _ client
  | update => exact accept_error (map_eq_error he) _ client
  | call => exact accept_error (map_eq_error he) _ client
  | execute sql params wanted =>
      let execution : Act σ Error (Outcome α) := client.gateway.execute d sql params
      have hrun : execution.run client.session = (.error e, client.session) := by
        unfold execution Gateway.execute
        rw [map_eq_error he]
        rfl
      have hget : (get : Doing σ α (Client σ α)).run client = (.ok client, client) := rfl
      exact (run_bind_of_ok hget).trans (run_bind_of_error (act_error hrun))
  | _ => cases he

end SqlGateway
