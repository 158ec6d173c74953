import SqlGateway.Proofs.Accord.Sights
import SqlGateway.Proofs.Act.Pair

/-!
# Steps beside a cursor

A step that neither names a cursor nor puts another one in its place does the same whether the
client keeps the cursor or not, and leaves it where it is.
-/

namespace SqlGateway

namespace Registry

variable {κ α : Type} [DecidableEq κ] {k n : κ}

theorem get?_remove_of_ne (h : n ≠ k) (r : Registry κ α) : get? k (remove n r) = get? k r := by
  induction r with
  | nil => rfl
  | cons e r ih =>
      obtain ⟨m, a⟩ := e
      simp only [remove]
      split
      · rename_i hm
        simp only [get?, if_neg (hm ▸ h)]
      · simp only [get?, ih]

theorem remove_comm (h : n ≠ k) (r : Registry κ α) :
    remove n (remove k r) = remove k (remove n r) := by
  induction r with
  | nil => rfl
  | cons e r ih =>
      obtain ⟨m, a⟩ := e
      by_cases hk : m = k
      · simp only [remove, if_pos hk, if_neg (hk ▸ h.symm : ¬ m = n)]
      · by_cases hn : m = n
        · simp only [remove, if_neg hk, if_pos hn]
        · simp only [remove, if_neg hk, if_neg hn, ih]

theorem put_remove (h : n ≠ k) (a : α) (r : Registry κ α) :
    put n a (remove k r) = remove k (put n a r) := by
  induction r with
  | nil => simp only [remove, put, if_neg h]
  | cons e r ih =>
      obtain ⟨m, b⟩ := e
      by_cases hk : m = k
      · simp only [remove, put, if_pos hk, if_neg (hk ▸ h.symm : ¬ m = n)]
      · by_cases hn : m = n
        · simp only [remove, put, if_neg hk, if_pos hn, if_neg h]
        · simp only [remove, put, if_neg hk, if_neg hn, ih]

end Registry

variable {σ α β : Type} {d : Driver σ}

namespace Client

/-- The client without the cursor that it keeps under a number. -/
def without (k : Nat) (client : Client σ α) : Client σ α :=
  { client with cursors := client.cursors.remove k }

/-- The first client keeps `o` under `k`; but for that the two are the same. -/
def Beside (k : Nat) (o : Option (ResultCursor α)) (client client' : Client σ α) : Prop :=
  client.cursors.get? k = o ∧ client' = client.without k

variable {k n : Nat} {o : Option (ResultCursor α)}

/-! ## What a client does -/

theorem beside_get {f : Client σ α → Doing σ α β}
    (hf : ∀ client, f (client.without k) = f client)
    (h : ∀ client, Respects (Beside k o) (f client)) :
    Respects (Beside k o) (get >>= f) := by
  rintro client client' ⟨ho, rfl⟩
  change ((f client).run client).1 = ((f (client.without k)).run (client.without k)).1 ∧
    Paired _ _ ((f client).run client).1 ((f client).run client).2
      ((f (client.without k)).run (client.without k)).2
  rw [hf]
  exact h client client _ ⟨ho, rfl⟩

theorem get?_without (h : n ≠ k) (client : Client σ α) :
    (client.without k).cursors.get? n = client.cursors.get? n :=
  Registry.get?_remove_of_ne (Ne.symm h) client.cursors

theorem beside_act (act : Act σ Error β) :
    Respects (Beside k o) (Client.act act : Doing σ α β) := by
  refine Respects.of_run ?_
  rintro client client' ⟨ho, rfl⟩
  exact ⟨rfl, ho, rfl⟩

theorem beside_plain (act : Plain σ β) : Respects (Beside k o) (Client.plain act : Doing σ α β) :=
  beside_act _

theorem beside_accept (result : Except Error β) :
    Respects (Beside k o) (Client.accept result : Doing σ α β) := by
  cases result with
  | ok b => exact Respects.pure
  | error e => exact Respects.throw

theorem beside_modify {f : Client σ α → Client σ α}
    (hget : ∀ client, (f client).cursors.get? k = client.cursors.get? k)
    (hf : ∀ client, f (client.without k) = (f client).without k) :
    Respects (Beside k o) (modify f : Doing σ α PUnit) := by
  refine Respects.of_run ?_
  rintro client client' ⟨ho, rfl⟩
  exact ⟨rfl, (hget client).trans ho, hf client⟩

theorem beside_print (text : String) : Respects (Beside k o) (Client.print text : Doing σ α Unit) :=
  beside_modify (fun _ => rfl) fun _ => rfl

theorem beside_cursor (h : n ≠ k) :
    Respects (Beside k o) (Client.cursor n : Doing σ α (ResultCursor α)) := by
  refine beside_get (fun client => congrArg found (get?_without h client)) fun client => ?_
  cases client.cursors.get? n with
  | some cursor => exact Respects.pure
  | none => exact Respects.throw

theorem beside_putCursor (h : n ≠ k) (cursor : ResultCursor α) :
    Respects (Beside k o) (Client.putCursor n cursor : Doing σ α Unit) :=
  beside_modify (fun client => Registry.get?_put_of_ne h cursor client.cursors)
    fun client => congrArg (fun r => { client with cursors := r })
      (Registry.put_remove h cursor client.cursors)

theorem beside_takeCursor (h : n ≠ k) :
    Respects (Beside k o) (Client.takeCursor n : Doing σ α (ResultCursor α)) := by
  refine Matches.bind (beside_cursor h) fun cursor => ?_
  refine Matches.bind (beside_modify ?_ ?_) fun _ => Respects.pure
  · exact fun client => Registry.get?_remove_of_ne h client.cursors
  · exact fun client => congrArg (fun r => { client with cursors := r })
      (Registry.remove_comm h client.cursors)

theorem beside_keepCursor (h : n ≠ k) (cursor : ResultCursor α) :
    Respects (Beside k o) (Client.keepCursor d n cursor) := by
  refine beside_get (fun client => ?_) fun client => ?_
  · rw [get?_without h client]
  · refine Matches.bind (beside_putCursor h cursor) fun _ => ?_
    cases client.cursors.get? n with
    | some old => exact beside_plain _
    | none => exact Respects.pure

theorem beside_advance (cursor : ResultCursor α)
    (move : ResultCursor α → Plain σ (β × ResultCursor α)) :
    Respects (Beside k o) (Client.advance cursor move) := by
  refine Matches.bind (beside_plain _) fun r => ?_
  dsimp only
  split
  · exact Matches.bind (beside_modify (fun _ => rfl) fun _ => rfl) fun _ => Respects.pure
  · exact Respects.pure

/-! ## Steps -/

theorem beside_maps (cursor : ResultCursor α) : Respects (Beside k o) (Client.maps d cursor) := by
  refine Matches.bind (beside_advance _ _) fun r => ?_
  refine Matches.bind (beside_plain _) fun _ => ?_
  exact beside_accept _

theorem beside_fetch {wanted : Fetch} (h : wanted ≠ .keep k) (cursor : ResultCursor α) :
    Respects (Beside k o) (Client.fetch d cursor wanted) := by
  cases wanted with
  | keep n =>
      refine Matches.bind (beside_keepCursor (fun hn => h (congrArg Fetch.keep hn)) cursor)
        fun _ => ?_
      exact Respects.pure
  | maps => exact Matches.bind (beside_maps cursor) fun rows => Respects.pure

theorem beside_select {sql : String} {params : Params} {setup : Setup} {use : SelectUse α}
    (h : use ≠ .fetch (.keep k)) :
    Respects (Beside k o) (Client.select d sql params setup use) := by
  refine beside_get (fun _ => rfl) fun client => ?_
  refine Matches.bind (beside_accept _) fun query => ?_
  extract_lets query run
  have hrun (u : PUnit) : Respects (Beside k o) (run u) := by
    cases use with
    | text => exact Respects.pure
    | fetch wanted =>
        refine Matches.bind (beside_act _) fun cursor => ?_
        have hw : wanted ≠ .keep k := fun hw => h (congrArg SelectUse.fetch hw)
        exact Matches.bind (beside_fetch hw cursor) fun _ => Respects.pure
    | single mapper => exact Matches.bind (beside_act _) fun _ => Respects.pure
  split
  · exact Matches.bind (beside_print _) hrun
  · exact hrun ⟨⟩

theorem beside_update {sql : String} {values : UpdateValues} {setup : Setup} {use : UpdateUse α} :
    Respects (Beside k o) (Client.update d sql values setup use) := by
  refine beside_get (fun _ => rfl) fun client => ?_
  refine Matches.bind (beside_accept _) fun update => ?_
  extract_lets update run
  have hrun (u : PUnit) : Respects (Beside k o) (run u) := by
    cases use with
    | text => exact Respects.pure
    | execute => exact Matches.bind (beside_act _) fun _ => Respects.pure
    | keys keys mapper => exact Matches.bind (beside_act _) fun _ => Respects.pure
  split
  · exact Matches.bind (beside_print _) hrun
  · exact hrun ⟨⟩

theorem beside_call {sql : String} {params : List Parameter} {setup : Setup}
    {handler : Option (OutMapper α)} {use : CallUse α} (h : use ≠ .fetch (.keep k)) :
    Respects (Beside k o) (Client.call d sql params setup handler use) := by
  refine beside_get (fun _ => rfl) fun client => ?_
  refine Matches.bind (beside_accept _) fun built => ?_
  extract_lets shown call run
  have hrun (u : PUnit) : Respects (Beside k o) (run u) := by
    cases use with
    | text => exact Respects.pure
    | fetch wanted =>
        refine Matches.bind (beside_act _) fun cursor => ?_
        have hw : wanted ≠ .keep k := fun hw => h (congrArg CallUse.fetch hw)
        exact Matches.bind (beside_fetch hw cursor) fun _ => Respects.pure
    | invoke => exact Matches.bind (beside_act _) fun _ => Respects.pure
    | invokeWith mapper => exact Matches.bind (beside_act _) fun _ => Respects.pure
  split
  · exact Matches.bind (beside_print _) hrun
  · exact hrun ⟨⟩

theorem beside_execute {sql : String} {params : Params} {wanted : Fetch} (h : wanted ≠ .keep k) :
    Respects (Beside k o) (Client.execute d sql params wanted : Doing σ α (Reply α)) := by
  refine beside_get (fun _ => rfl) fun client => ?_
  refine Matches.bind (beside_act _) fun outcome => ?_
  cases outcome with
  | rowCount count => exact Respects.pure
  | rows cursor => exact Matches.bind (beside_fetch h cursor) fun _ => Respects.pure

theorem beside_next (h : n ≠ k) (reads : List (RowMapper α)) :
    Respects (Beside k o) (Client.next d n reads) := by
  refine Matches.bind (beside_cursor h) fun cursor => ?_
  refine Matches.bind (beside_advance _ _) fun r => ?_
  refine Matches.bind (beside_putCursor h _) fun _ => ?_
  refine Matches.bind (beside_accept _) fun row => ?_
  cases row with
  | none => exact Respects.pure
  | some row =>
      exact Matches.bind (Respects.mapM (fun mapper => beside_plain _) reads) fun _ => Respects.pure

theorem beside_map (h : n ≠ k) (mapper : RowMapper α) (limit : Option Nat) (keep : Bool) :
    Respects (Beside k o) (Client.map d n mapper limit keep) := by
  refine Matches.bind (beside_takeCursor h) fun cursor => ?_
  refine Matches.bind (beside_advance _ _) fun r => ?_
  cases keep with
  | true => exact Matches.bind (beside_putCursor h _) fun _ => Respects.pure
  | false => exact Matches.bind (beside_plain _) fun _ => Respects.pure

/-- A step through the library that neither names the cursor nor replaces it takes no notice of
it. -/
theorem beside_step {step : Step σ α} (hs : step.isLibrary = true) (hn : step.cursor? ≠ some k)
    (hk : step.keeps? ≠ some k) : Respects (Beside k o) (Client.takeStep d step) := by
  cases step with
  | operation op =>
      have other {n : Nat} (h : some n ≠ some k) : n ≠ k := fun e => h (congrArg some e)
      cases op with
      | select sql params setup use => exact beside_select fun h => hk (by rw [h]; rfl)
      | update sql values setup use => exact beside_update
      | call sql params setup handler use => exact beside_call fun h => hk (by rw [h]; rfl)
      | execute sql params wanted => exact beside_execute fun h => hk (by rw [h]; rfl)
      | next n reads => exact beside_next (other hn) reads
      | isClosed n => exact Matches.bind (beside_cursor (other hn)) fun _ => Respects.pure
      | close n =>
          refine Matches.bind (beside_takeCursor (other hn)) fun cursor => ?_
          exact Matches.bind (beside_act _) fun _ => Respects.pure
      | drop n =>
          refine Matches.bind (beside_takeCursor (other hn)) fun cursor => ?_
          exact Matches.bind (beside_plain _) fun _ => Respects.pure
      | maps n =>
          refine Matches.bind (beside_takeCursor (other hn)) fun cursor => ?_
          exact Matches.bind (beside_maps cursor) fun _ => Respects.pure
      | map n mapper limit keep => exact beside_map (other hn) mapper limit keep
  | update | updateKeys | transaction =>
      exact Matches.bind (beside_act _) fun _ => Respects.pure
  | config => exact beside_get (fun _ => rfl) fun _ => Respects.pure
  | guard | connection | change => cases hs

theorem step_without {step : Step σ α} (hs : step.isLibrary = true) (hn : step.cursor? ≠ some k)
    (hk : step.keeps? ≠ some k) (client : Client σ α) :
    (client.step d step).2.cursors.get? k = client.cursors.get? k ∧
      ((client.without k).step d step).2 = (client.step d step).2.without k :=
  (Respects.run (beside_step hs hn hk) client (client.without k) ⟨rfl, rfl⟩).2

end Client

end SqlGateway
