import SqlGateway.Proofs.Conduct.Client
import SqlGateway.Proofs.Walk.Tally

/-!
# What passes for an operation

On a watched driver all calls that pass for an operation serve what was built from it. An error that
is no failed execution was raised by one of the caller's programs, on a row or on output values that
were there and with the answers that have passed.
-/

namespace SqlGateway

variable {σ α : Type} {d : Driver σ} {q : Option Request} {t u : List Exchange} {e : Error}

/-! ## What serves a request -/

namespace Exchange

def Serves (q : Option Request) : Exchange → Prop
  | .call c _ => c.Serves q
  | .probe .. => True

/-- The exchange after which the output values of a statement are there: it was executed, or its
results have come to their end. -/
def BringsOut (i : StatementId) : Exchange → Prop
  | .call (.execute i') (.ok _) => i' = i
  | .call (.moreResults i') (.ok more) => i' = i ∧ more = false
  | _ => False

theorem OfRow.serves {x : Exchange} (h : x.OfRow) : x.Serves q := by
  unfold OfRow at h
  split at h <;> trivial

end Exchange

theorem OutReplays.serves {i : StatementId} {p : Reading OutRead OutRead.Answer α} {a : α}
    (h : OutReplays i p t a) : ∀ x ∈ t, x.Serves q := by
  induction h with
  | done a => exact fun _ hx => absurd hx List.not_mem_nil
  | ask h ih => exact List.forall_mem_cons.mpr ⟨trivial, ih⟩

/-! ## What programs of the caller raise -/

/-- In what has passed a row was reached from which the mapper came to the error. -/
def RowMapper.Raised (mapper : RowMapper α) (u : List Exchange) (e : Error) : Prop :=
  ∃ c row before asked after, u = before ++ asked ++ after ∧ .call (.next c) (.ok true) ∈ before ∧
    Replays c (mapper row).run asked (.error e)

/-- In what has passed output values were to be had from which the mapper came to the error. -/
def OutMapper.Raised (mapper : OutMapper α) (u : List Exchange) (e : Error) : Prop :=
  ∃ i slots before asked after, u = before ++ asked ++ after ∧ (∃ x ∈ before, x.BringsOut i) ∧
    OutReplays i (mapper slots).run asked (.error e)

/-- One of the programs came to the error. -/
def Raised (mapper? : Option (RowMapper α)) (handler? : Option (OutMapper α)) (u : List Exchange)
    (e : Error) : Prop :=
  (∃ mapper ∈ mapper?, mapper.Raised u e) ∨ ∃ mapper ∈ handler?, mapper.Raised u e

theorem RowMapper.Raised.append {mapper : RowMapper α} (h : mapper.Raised u e)
    (v : List Exchange) : mapper.Raised (u ++ v) e := by
  obtain ⟨c, row, before, asked, after, rfl, h⟩ := h
  exact ⟨c, row, before, asked, after ++ v, List.append_assoc .., h⟩

theorem OutMapper.Raised.append {mapper : OutMapper α} (h : mapper.Raised u e)
    (v : List Exchange) : mapper.Raised (u ++ v) e := by
  obtain ⟨i, slots, before, asked, after, rfl, h⟩ := h
  exact ⟨i, slots, before, asked, after ++ v, List.append_assoc .., h⟩

theorem Raised.append {mapper? : Option (RowMapper α)} {handler? : Option (OutMapper α)}
    (h : Raised mapper? handler? u e) (v : List Exchange) :
    Raised mapper? handler? (u ++ v) e :=
  h.imp (fun ⟨mapper, hm, h⟩ => ⟨mapper, hm, h.append v⟩)
    fun ⟨mapper, hm, h⟩ => ⟨mapper, hm, h.append v⟩

/-! ## Conditions on what has passed -/

def Error.IsExecution (e : Error) : Prop :=
  ∃ reason, e = .execution reason

/-- Only what serves the request has passed, and it has the property. -/
def Served (q : Option Request) (p : List Exchange → Prop) (u : List Exchange) : Prop :=
  (∀ x ∈ u, x.Serves q) ∧ p u

theorem Served.append {p : List Exchange → Prop} (hp : ∀ u x, p u → p (u ++ [x]))
    (h : Served q p u) {x : Exchange} (hx : x.Serves q) : Served q p (u ++ [x]) :=
  ⟨List.forall_mem_append.mpr ⟨h.1, List.forall_mem_singleton.mpr hx⟩, hp u x h.2⟩

theorem Upheld.since {p : List Exchange → Prop} (hp : ∀ u x, p u → p (u ++ [x])) :
    Upheld d.traced q (Since t (Served q p)) where
  log _ _ hs := hs
  count _ _ _ hs := hs
  ask _ := Since.ask fun _ _ hu => hu.append hp trivial
  call _ hc := Since.perform (fun _ _ hu => hu.append hp hc) fun _ _ hu => hu.append hp hc

theorem Served.extend {p : List Exchange → Prop} (h : Served q p u) {x : Exchange}
    (hx : x.Serves q) : Served q (fun _ => True) (u ++ [x]) :=
  Served.append (fun _ _ => id) ⟨h.1, trivial⟩ hx

/-- A call whose answer tells whether there is something to be had. -/
theorem since_perform {c : Call} (hc : c.Serves q) {told : c.Answer → Prop}
    {p : List Exchange → Prop} (hp : ∀ u a, told a → p (u ++ [.call c (.ok a)])) :
    Secures (Since t (Served q fun _ => True)) (d.traced.perform c)
      (fun a s => Since t (Served q fun _ => True) s ∧ (told a → Since t (Served q p) s))
      (Since t (Served q fun _ => True)) := by
  refine Secures.weaken (Since.perform (q := fun a u => Served q (fun _ => True) u ∧ (told a → p u))
    (e := Served q fun _ => True) ?_ ?_) ?_ ?_
  · exact fun u a hu => ⟨hu.extend hc, hp u a⟩
  · exact fun u f hu => hu.extend hc
  · exact fun a s hs => ⟨hs.mono fun u hu => hu.1, fun ha => hs.mono fun u hu => ⟨hu.1.1, hu.2 ha⟩⟩
  · exact fun _ hs => hs

/-- The conduct of an operation whose programs are given. -/
theorem Conduct.since (mapper? : Option (RowMapper α)) (handler? : Option (OutMapper α)) :
    Conduct d.traced q (Since t (Served q fun _ => True))
      (fun e => Since t (Served q fun u => e.IsExecution ∨ Raised mapper? handler? u e))
      (fun c => Since t (Served q fun u => .call (.next c) (.ok true) ∈ u))
      (fun i => Since t (Served q fun u => ∃ x ∈ u, x.BringsOut i)) where
  going := Upheld.since fun _ _ => id
  failed e := Upheld.since fun u x h => h.imp_right (·.append [x])
  execution reason s hs := hs.mono fun u hu => ⟨hu.1, .inl ⟨reason, rfl⟩⟩
  going_of_failed e s hs := hs.mono fun u hu => ⟨hu.1, trivial⟩
  reached c := since_perform (c := .next c) trivial fun u _ hmoved =>
    hmoved ▸ List.mem_append_right u List.mem_cons_self
  described c := (Upheld.since fun u x h => List.mem_append_left [x] h).call (.columns c) trivial
  going_of_reached c s hs := hs.mono fun u hu => ⟨hu.1, trivial⟩
  executed i := by
    refine Since.perform (fun u answer hu => ?_) fun u f hu => hu.extend trivial
    have hserved := hu.extend (x := .call (.execute i) (.ok answer)) trivial
    exact ⟨hserved.1, _, List.mem_append_right u List.mem_cons_self, rfl⟩
  exhausted i := since_perform (c := .moreResults i) trivial fun u _ hmore =>
    ⟨_, List.mem_append_right u List.mem_cons_self, rfl, hmore⟩
  going_of_executed i s hs := hs.mono fun u hu => ⟨hu.1, trivial⟩

/-! ## Programs of the caller -/

theorem minds_since {mapper? : Option (RowMapper α)} (handler? : Option (OutMapper α))
    {mapper : RowMapper α} (hm : mapper ∈ mapper?) :
    Minds d.traced (Since t (Served q fun _ => True))
      (fun e => Since t (Served q fun u => e.IsExecution ∨ Raised mapper? handler? u e))
      (fun c => Since t (Served q fun u => .call (.next c) (.ok true) ∈ u)) mapper := by
  rintro c row s ⟨before, hs, hserved, hreached⟩
  obtain ⟨asked, htrace, hreplays⟩ := readRow_replays (d := d) c (mapper row) s
  revert htrace hreplays
  generalize (d.traced.readRow c (mapper row)).run s = result
  obtain ⟨r, s'⟩ := result
  intro htrace hreplays
  have hpassed : s'.trace = t ++ (before ++ asked) := by
    rw [htrace, hs, List.append_assoc]
  have hall : ∀ x ∈ before ++ asked, x.Serves q :=
    List.forall_mem_append.mpr ⟨hserved, fun x hx => (hreplays.ofRow x hx).serves⟩
  cases r with
  | ok a => exact ⟨_, hpassed, hall, trivial⟩
  | error e =>
      refine ⟨_, hpassed, hall, .inr (.inl ⟨mapper, hm, ?_⟩)⟩
      exact ⟨c, row, before, asked, [], (List.append_nil _).symm, hreached, hreplays⟩

theorem mindsOut_since (mapper? : Option (RowMapper α)) {handler? : Option (OutMapper α)}
    {mapper : OutMapper α} (hm : mapper ∈ handler?) :
    MindsOut d.traced (Since t (Served q fun _ => True))
      (fun e => Since t (Served q fun u => e.IsExecution ∨ Raised mapper? handler? u e))
      (fun i => Since t (Served q fun u => ∃ x ∈ u, x.BringsOut i)) mapper := by
  rintro i slots s ⟨before, hs, hserved, hout⟩
  generalize hrun : (d.traced.readOut i (mapper slots)).run s = result
  obtain ⟨r, s'⟩ := result
  obtain ⟨asked, htrace, hreplays⟩ := readOut_replays hrun
  have hpassed : s'.trace = t ++ (before ++ asked) := by
    rw [htrace, hs, List.append_assoc]
  have hall : ∀ x ∈ before ++ asked, x.Serves q :=
    List.forall_mem_append.mpr ⟨hserved, hreplays.serves⟩
  cases r with
  | ok a => exact ⟨_, hpassed, hall, trivial⟩
  | error e =>
      refine ⟨_, hpassed, hall, .inr (.inr ⟨mapper, hm, ?_⟩)⟩
      exact ⟨i, slots, before, asked, [], (List.append_nil _).symm, hout, hreplays⟩

/-! ## Operations -/

/-- What passes for an operation that could be built. -/
theorem operate_served {client : Client (Traced σ) α} {operation : Operation α}
    (hq : operation.request client.gateway = .ok q) :
    ∃ u, (client.step d.traced (.operation operation)).2.session.trace = client.session.trace ++ u ∧
      (∀ x ∈ u, x.Serves q) ∧
      ∀ e ∈ reported (client.step d.traced (.operation operation)).1,
        e.IsExecution ∨ Raised operation.mapper? (operation.handler? client.cursors) u e := by
  have h := Conduct.operate hq (Conduct.since (d := d) (t := client.session.trace) operation.mapper?
    (operation.handler? client.cursors)) (fun _ hm => minds_since _ hm)
    (fun _ hm => mindsOut_since _ hm) client
    ⟨rfl, (Since.refl client.session).mono fun u hu => by
      rw [hu]
      exact ⟨fun _ hx => absurd hx List.not_mem_nil, trivial⟩⟩
  change Ended _ _ (client.step d.traced (.operation operation)).1
    (client.step d.traced (.operation operation)).2 at h
  revert h
  generalize client.step d.traced (.operation operation) = result
  obtain ⟨r, after⟩ := result
  intro h
  cases r with
  | ok reply =>
      obtain ⟨⟨u, hu, hserved, -⟩, herrors⟩ := h
      refine ⟨u, hu, hserved, fun e he => ?_⟩
      obtain ⟨u', hu', -, hraised⟩ := herrors e he
      obtain rfl : u = u' := List.append_cancel_left (hu.symm.trans hu')
      exact hraised
  | error refusal =>
      cases refusal with
      | noHandle =>
          obtain ⟨u, hu, hserved, -⟩ := h
          exact ⟨u, hu, hserved, fun e he => absurd he List.not_mem_nil⟩
      | error e =>
          obtain ⟨u, hu, hserved, hraised⟩ := h
          exact ⟨u, hu, hserved, List.forall_mem_singleton.mpr hraised⟩

/-- Nothing passes for one that could not. -/
theorem operate_unserved {client : Client (Traced σ) α} {operation : Operation α}
    (he : operation.request client.gateway = .error e) :
    client.step d.traced (.operation operation) = (.error (.error e), client) :=
  operate_of_request_error he

end SqlGateway
