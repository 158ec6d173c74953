import SqlGateway.Proofs.Trace.Feed

/-!
# Rows are sent in order

An update feeds its statement the rows that it was given: in order, none twice, and each with its
own values and nothing that was left from another. This holds whatever the driver answers, and all
rows are sent where the update succeeds.
-/

namespace SqlGateway

open Protocol

/-- If something is bound it is to the statement `i`, within the first `w` positions. -/
def Exchange.Within (i : StatementId) (w : Nat) : Exchange → Prop
  | .probe .supportsBatch _ => False
  | .call (.bind j position _) _ => j = i ∧ 1 ≤ position ∧ position ≤ w
  | _ => True

/-- Wherever it starts with `P`, what passes sends no more than the plan, and in its order. If it
comes to a good end it has sent all of it, and there is `Q`. -/
def Sends (i : StatementId) (w : Nat) (P : Feed → Prop) (K : Protocol) (plan : List Sending)
    (Q : Feed → Prop) : Prop :=
  ∀ f t ok, P f → K t ok → (∀ e ∈ t, e.Within i w) ∧
    ∃ sent, (f.afterAll t).sent = f.sent ++ sent ∧ sent <+: plan ∧
      (ok = true → sent = plan ∧ Q (f.afterAll t))

variable {i : StatementId} {w : Nat} {P Q R : Feed → Prop} {K L : Protocol}
  {plan plan' : List Sending}

/-! ## Rules -/

theorem Exchange.within_of_aside {e : Exchange} (h : e.aside = true) : e.Within i w := by
  cases e with
  | probe p answer =>
      cases p with
      | supportsBatch => cases h
      | _ => exact trivial
  | call c answer =>
      cases c with
      | bind => cases h
      | _ => exact trivial

theorem Exchange.within_of_sending {c : Call} {bound : StatementId → Slots} {x : Sending}
    {r : Except Failure c.Answer} (h : c.sending? bound = some x) :
    (Exchange.call c r).Within i w := by
  cases c with
  | bind => cases h
  | _ => exact trivial

theorem Feed.after_of_sending {f : Feed} {c : Call} {x : Sending} {r : Except Failure c.Answer}
    (h : c.sending? f.bound = some x) :
    f.after (.call c r) = { f with sent := f.sent ++ [x] } := by
  have hafter : f.after (.call c r) = { f with sent := f.sent ++ (c.sending? f.bound).toList } := by
    cases c with
    | bind => cases h
    | _ => rfl
  rw [hafter, h]
  rfl

namespace Sends

theorem done : Sends i w P Done [] P := by
  rintro f t ok hf ⟨⟩
  exact ⟨List.forall_mem_nil _, [], (List.append_nil _).symm, List.nil_prefix, fun _ => ⟨rfl, hf⟩⟩

theorem aside (h : Aside K) : Sends i w P K [] P := by
  intro f t ok hf ht
  have hsame : f.afterAll t = f := Feed.afterAll_of_aside (h t ok ht) f
  rw [hsame]
  refine ⟨fun e he => Exchange.within_of_aside (h t ok ht e he), [], (List.append_nil _).symm, ?_⟩
  exact ⟨List.nil_prefix, fun _ => ⟨rfl, hf⟩⟩

theorem andThen (hK : Sends i w P K plan R) (hL : Sends i w R L plan' Q) :
    Sends i w P (Then K L) (plan ++ plan') Q := by
  intro f t ok hf ht
  cases ht with
  | stop ht =>
      obtain ⟨hwithin, sent, hsent, hprefix, -⟩ := hK f _ false hf ht
      exact ⟨hwithin, sent, hsent, hprefix.trans (List.prefix_append _ _), nofun⟩
  | @go t u ok ht hu =>
      obtain ⟨hwithin, sent, hsent, -, hall⟩ := hK f t true hf ht
      obtain ⟨rfl, hR⟩ := hall rfl
      obtain ⟨hwithin', sent', hsent', hprefix', hall'⟩ := hL _ u ok hR hu
      rw [Feed.afterAll_append]
      refine ⟨List.forall_mem_append.mpr ⟨hwithin, hwithin'⟩, sent ++ sent', ?_, ?_, fun hok => ?_⟩
      · rw [hsent', hsent, List.append_assoc]
      · exact (List.prefix_append_right_inj _).mpr hprefix'
      · obtain ⟨rfl, hQ⟩ := hall' hok
        exact ⟨rfl, hQ⟩

theorem once {c : Call} (hwithin : ∀ r, (Exchange.call c r).Within i w)
    (hsent : ∀ f r, P f → (f.after (.call c r)).sent = f.sent ++ plan)
    (hQ : ∀ f a, P f → Q (f.after (.call c (.ok a)))) : Sends i w P (Once c) plan Q := by
  intro f t ok hf ht
  cases ht with
  | answered a =>
      refine ⟨List.forall_mem_singleton.mpr (hwithin _), plan, hsent f _ hf, List.prefix_rfl, ?_⟩
      exact fun _ => ⟨rfl, hQ f a hf⟩
  | failed e =>
      exact ⟨List.forall_mem_singleton.mpr (hwithin _), plan, hsent f _ hf, List.prefix_rfl, nofun⟩

/-- What is done for each item sends that item's share of the plan. -/
theorem each {β : Type} {K : β → Protocol} {x : β → Sending} {bs : List β}
    (h : ∀ b ∈ bs, Sends i w P (K b) [x b] P) : Sends i w P (Each K bs) (bs.map x) P := by
  induction bs with
  | nil => exact done
  | cons b bs ih =>
      obtain ⟨hb, hbs⟩ := List.forall_mem_cons.mp h
      exact hb.andThen (ih hbs)

end Sends

/-! ## Binding -/

/-- The first positions have the values, and nothing is bound outside the first `w`. -/
def Bound (i : StatementId) (w : Nat) (values : List Value) (f : Feed) : Prop :=
  ∀ position, position ≤ values.length ∨ w < position →
    f.bound i position = Slots.ofRow values position

theorem Slots.ofRow_of_gt {row : List Value} {position : Nat} (h : row.length < position) :
    Slots.ofRow row position = none := by
  cases position with
  | zero => rfl
  | succ position => exact List.getElem?_eq_none (Nat.le_of_lt_succ h)

theorem Bound.unfed : Bound i w [] {} := by
  intro position _
  cases position <;> rfl

theorem Bound.slots {f : Feed} {row : List Value} (h : Bound i w row f) (hrow : row.length = w) :
    f.bound i = Slots.ofRow row := by
  funext position
  exact h position (by omega)

theorem Bound.clear {f : Feed} {row : List Value} (h : Bound i w row f) (hrow : row.length = w) :
    Bound i w [] f := by
  intro position hposition
  rw [h.slots hrow]
  cases position with
  | zero => rfl
  | succ position =>
      have houtside : w < position + 1 := by simpa using hposition
      rw [Slots.ofRow_of_gt (hrow ▸ houtside), Slots.ofRow_of_gt (Nat.succ_pos _)]

theorem Bound.bind {f : Feed} {values : List Value} (h : Bound i w values f)
    (value : Value) :
    Bound i w (values ++ [value]) (f.bind i (values.length + 1) value) := by
  intro position hposition
  rw [List.length_append, List.length_singleton] at hposition
  change Function.update f.bound i _ i position = _
  rw [Function.update_self]
  by_cases hlast : position = values.length + 1
  · subst hlast
    simp [Slots.ofRow]
  · rw [Function.update_of_ne hlast, h position (by omega)]
    cases position with
    | zero => rfl
    | succ position =>
        rcases Nat.lt_or_ge position values.length with hlt | hge
        · exact (List.getElem?_append_left hlt).symm
        · rw [Slots.ofRow_of_gt (by omega), Slots.ofRow_of_gt (by simp; omega)]

theorem sends_bindings (values : List Value) {fed : List Value}
    (hlen : fed.length + values.length ≤ w) :
    Sends i w (Bound i w fed) (Each Once (Call.bindings i (fed.length + 1) values)) []
      (Bound i w (fed ++ values)) := by
  induction values generalizing fed with
  | nil =>
      rw [List.append_nil]
      exact .done
  | cons value values ih =>
      rw [List.length_cons] at hlen
      have hbind : Sends i w (Bound i w fed) (Once (.bind i (fed.length + 1) value)) []
          (Bound i w (fed ++ [value])) := by
        refine .once (fun _ => ⟨rfl, by omega, by omega⟩) (fun f r hf => ?_) fun f a hf => ?_
        · cases r with
          | ok a => exact (List.append_nil _).symm
          | error e => rfl
        · exact hf.bind value
      have hrest : Sends i w (Bound i w (fed ++ [value])) _ [] _ := ih (by simp; omega)
      rw [List.length_append, List.length_singleton, List.append_assoc] at hrest
      exact hbind.andThen hrest

/-- The values of a row are bound, and it is sent with these and no others. -/
theorem sends_row {row : List Value} (hrow : row.length = w) {c : Call}
    (hc : ∀ bound, c.sending? bound = some (.row c (bound i))) :
    Sends i w (Bound i w []) (Each Once (Call.bindings i 1 row ++ [c])) [.row c (.ofRow row)]
      (Bound i w []) := by
  have hbindings : Sends i w (Bound i w []) (Each Once (Call.bindings i 1 row)) []
      (Bound i w row) :=
    sends_bindings row (by simp [hrow])
  have hsent : Sends i w (Bound i w row) (Once c) [.row c (.ofRow row)] (Bound i w []) := by
    refine .once ?_ (fun f r hf => ?_) fun f a hf => ?_
    · exact fun r => Exchange.within_of_sending (hc fun _ _ => none)
    · rw [Feed.after_of_sending (hc f.bound), hf.slots hrow]
    · rw [Feed.after_of_sending (hc f.bound)]
      exact hf.clear hrow
  rw [each_append, each_singleton]
  exact hbindings.andThen hsent

/-! ## Executions -/

theorem Protocol.each_map {γ β : Type} {K : β → Protocol} {g : γ → β} (cs : List γ) :
    Each K (cs.map g) = Each (fun c => K (g c)) cs := by
  induction cs with
  | nil => rfl
  | cons c cs ih => exact congrArg (Then (K (g c))) ih

theorem Protocol.each_flatMap {γ β : Type} {K : β → Protocol} {g : γ → List β} (cs : List γ) :
    Each K (cs.flatMap g) = Each (fun c => Each K (g c)) cs := by
  induction cs with
  | nil => rfl
  | cons c cs ih =>
      rw [List.flatMap_cons, each_append, ih]
      rfl

variable {rows : List (List Value)} {options : Options}

theorem sends_executions (hrows : ∀ row ∈ rows, row.length = w) (hL : Aside L)
    (large batch : Bool) :
    Sends i w (Bound i w []) (Executions L (Call.executions i rows large batch))
      (sendings i rows large batch) (Bound i w []) := by
  cases batch with
  | false =>
      change Sends i w _ (Each _ (rows.map _)) (rows.map _) _
      rw [each_map]
      refine .each fun row hrow => ?_
      refine (sends_row (hrows row hrow) ?_).andThen (.aside hL)
      cases large <;> exact fun _ => rfl
  | true =>
      have hrun : Sends i w (Bound i w []) (Once (.executeLargeBatch i))
          [.batch (.executeLargeBatch i)] (Bound i w []) :=
        .once (fun _ => trivial) (fun _ _ _ => rfl) fun _ _ hf => hf
      change Sends i w _ (Each _ [_]) (rows.map _ ++ [_]) _
      rw [each_singleton, each_append, each_flatMap, each_singleton, ← List.append_nil (_ ++ [_])]
      refine (Sends.andThen (.each fun row hrow => ?_) hrun).andThen (.aside hL)
      exact sends_row (hrows row hrow) fun _ => rfl

/-- With or without the question for batches before them. -/
theorem Fed.of_executions (hrows : ∀ row ∈ rows, row.length = width rows) (hL : Aside L)
    {batch : Bool} {asked t : List Exchange} {ok : Bool}
    (hasked : asked = [.probe .supportsBatch batch] ∨ asked = [] ∧ batch = false)
    (hwanted : batch = true → options.batch = true ∧ 1 < rows.length)
    (ht : Executions L (Call.executions i rows options.large batch) t ok) :
    Fed i rows options batch (asked ++ t) ok := by
  obtain ⟨hwithin, sent, hsent, hprefix, hall⟩ :=
    sends_executions hrows hL options.large batch {} t ok .unfed ht
  have hfed : (Feed.afterAll {} (asked ++ t)).sent = sent := by
    rcases hasked with rfl | ⟨rfl, -⟩ <;> exact hsent
  refine ⟨?_, fun hok => ?_, fun {j position value answer} hb => ?_, hwanted, ?_⟩
  · rw [hfed]
    exact hprefix
  · rw [hfed]
    exact (hall hok).1
  · rcases List.mem_append.mp hb with hb | hb
    · rcases hasked with rfl | ⟨rfl, -⟩ <;> simp at hb
    · exact hwithin _ hb
  · have hunasked : .probe .supportsBatch true ∉ t := hwithin _
    simp only [List.mem_append, hunasked, or_false]
    rcases hasked with rfl | ⟨rfl, rfl⟩
    · simp [eq_comm]
    · simp

theorem fed_of_rows (hrows : ∀ row ∈ rows, row.length = width rows) (hL : Aside L)
    {t : List Exchange} {ok : Bool} (h : Rows i rows options L t ok) :
    ∃ batch, Fed i rows options batch t ok := by
  cases h with
  | asked hwanted batch ht =>
      have hwanted : options.batch = true ∧ 1 < rows.length := by simpa using hwanted
      exact ⟨batch, .of_executions hrows hL (.inl rfl) (fun _ => hwanted) ht⟩
  | unasked _ ht => exact ⟨false, .of_executions hrows hL (.inr ⟨rfl, rfl⟩) nofun ht⟩

/-! ## Keys -/

section Keys

variable {α : Type} {k : CursorId}

theorem Replays.aside {p : Reading CellRead CellRead.Answer α} {t : List Exchange} {a : α}
    (h : Replays k p t a) : ∀ e ∈ t, e.aside = true := by
  induction h with
  | done => exact List.forall_mem_nil _
  | object _ ih | binaryStream _ ih | characterStream _ ih =>
      exact List.forall_mem_cons.mpr ⟨rfl, ih⟩

theorem Described.aside {known : Option Row} {t : List Exchange} {row : Row}
    (h : Described k known t row) : ∀ e ∈ t, e.aside = true := by
  cases h with
  | known => exact List.forall_mem_nil _
  | first => exact List.forall_mem_singleton.mpr rfl

theorem Protocol.Aside.keyRows {mapper : RowMapper α} {known : Option Row} :
    Aside (KeyRows k mapper known) := by
  intro t ok h
  induction h with
  | unmoved | finished => exact List.forall_mem_singleton.mpr rfl
  | undescribed => exact List.forall_mem_cons.mpr ⟨rfl, List.forall_mem_singleton.mpr rfl⟩
  | unmapped hrow hmap =>
      exact List.forall_mem_cons.mpr ⟨rfl, List.forall_mem_append.mpr ⟨hrow.aside, hmap.aside⟩⟩
  | mapped hrow hmap _ ih =>
      refine List.forall_mem_cons.mpr ⟨rfl, List.forall_mem_append.mpr ⟨?_, ih⟩⟩
      exact List.forall_mem_append.mpr ⟨hrow.aside, hmap.aside⟩

theorem Protocol.Aside.keys {mapper : RowMapper α} : Aside (Keys i mapper) := by
  intro t ok h
  cases h with
  | unopened => exact List.forall_mem_singleton.mpr rfl
  | opened k ht =>
      exact List.forall_mem_cons.mpr ⟨rfl, (Aside.keyRows.andFinally (.once fun _ => rfl)) _ _ ht⟩

end Keys

/-! ## Around the rows -/

theorem Protocol.Aside.settings : Aside (Each Hint (Call.settings i options)) := by
  refine .each fun c hc => .hint fun r => ?_
  simp only [Call.settings, List.mem_append, List.mem_cons, Option.mem_toList,
    Option.map_eq_some_iff]
    at hc
  rcases hc with ⟨_, _, rfl⟩ | rfl | rfl | ⟨_, _, rfl⟩ | ⟨_, _, rfl⟩ <;> rfl

theorem around_updated {sql : String} {keys : GeneratedKeys} {L : StatementId → Protocol}
    {t : List Exchange} {ok : Bool} (h : Updated sql keys options L t ok) :
    Around (fun t ok => ∃ i, L i t ok) t ok := by
  cases h with
  | closed => exact .apart (List.forall_mem_singleton.mpr rfl)
  | unprepared => exact .apart (List.forall_mem_cons.mpr ⟨rfl, List.forall_mem_singleton.mpr rfl⟩)
  | prepared i ht =>
      obtain ⟨hwork, hclose⟩ := ht
      rename_i t u ok ok'
      have hclosed : ∀ e ∈ u, e.aside = true := Aside.once (fun _ => rfl) _ _ hclose
      have hprepared {v : List Exchange} (hv : ∀ e ∈ v, e.aside = true) :
          ∀ e ∈ .probe .isClosed false :: .call (.prepare i sql .dml keys) (.ok ()) :: v,
            e.aside = true :=
        List.forall_mem_cons.mpr ⟨rfl, List.forall_mem_cons.mpr ⟨rfl, hv⟩⟩
      cases hwork with
      | stop hset =>
          exact .apart (hprepared (List.forall_mem_append.mpr ⟨Aside.settings _ _ hset, hclosed⟩))
      | go hset hwork =>
          rw [List.append_assoc]
          exact .intro (hprepared (Aside.settings _ _ hset)) ⟨i, hwork⟩ hclosed
            fun h => (Bool.and_eq_true_iff.mp h).1

theorem Protocol.Aside.leveled {wanted : Option IsolationLevel} {b : IsolationLevel}
    {c : Option IsolationLevel} : Aside (Leveled wanted b c) := by
  intro t ok h
  cases h with
  | kept => exact List.forall_mem_nil _
  | unsupported => exact List.forall_mem_singleton.mpr rfl
  | changed | refused => exact List.forall_mem_cons.mpr ⟨rfl, List.forall_mem_singleton.mpr rfl⟩

theorem Protocol.Aside.reset {a : Bool} {c : Option IsolationLevel} : Aside (Reset a c) := by
  refine (Aside.once fun _ => rfl).andFinally ?_
  cases c with
  | none => exact .done
  | some b => exact .once fun _ => rfl

theorem aside_opening {a : Bool} {b : IsolationLevel} {p : Savepoint} :
    ∀ e ∈ opening a b p, e.aside = true := by
  simp [opening, Exchange.aside]

theorem around_transacted {wanted : Option IsolationLevel} {M : Protocol}
    (hL : ∀ {t ok}, L t ok → Around M t ok) {t : List Exchange} {ok : Bool}
    (h : Transacted wanted L t ok) : Around M t ok := by
  -- what is done in the transaction, up to its commit
  have work {b : IsolationLevel} {c : Option IsolationLevel} {t : List Exchange} {ok : Bool}
      (h : Then (Leveled wanted b c) (Then L (Once .commit)) t ok) : Around M t ok := by
    cases h with
    | stop h => exact .apart (Aside.leveled _ _ h)
    | go h h' =>
        have hleveled := Aside.leveled _ _ h
        cases h' with
        | stop h' =>
            have haround := (hL h').extend hleveled (List.forall_mem_nil _) id
            rwa [List.append_nil] at haround
        | go h' hcommit =>
            exact (hL h').extend hleveled (Aside.once (fun _ => rfl) _ _ hcommit) fun _ => rfl
  cases h with
  | unasked | unread | unswitched => exact .apart (by simp [Exchange.aside])
  | unmarked a b f hu =>
      refine .apart (List.forall_mem_append.mpr ⟨?_, Aside.reset _ _ hu⟩)
      simp [Exchange.aside]
  | committed ht hu =>
      rw [List.append_assoc]
      exact (work ht).extend aside_opening (Aside.reset _ _ hu) fun _ => rfl
  | undone ht hu =>
      rw [List.append_assoc]
      refine (work ht).extend aside_opening ?_ id
      exact (((Aside.once fun _ => rfl).andFinally (.once fun _ => rfl)).andFinally .reset) _ _ hu

/-! ## Updates -/

variable {σ α β : Type} {d : Driver σ}

theorem transacted_fed (hrows : ∀ row ∈ rows, row.length = width rows) {sql : String}
    {keys : GeneratedKeys} {K : StatementId → Protocol} (hK : ∀ i, Aside (K i))
    {act : Act (Traced σ) Error α}
    (hact : Follows act (Updated sql keys options fun i => Rows i rows options (K i))) :
    Follows (d.traced.transacted rows options act)
      (RowsFed rows options) := by
  have around {t : List Exchange} {ok : Bool}
      (h : Updated sql keys options (fun i => Rows i rows options (K i)) t ok) :
      Around (RowsFed rows options) t ok :=
    (around_updated h).mono fun t ok ⟨i, h⟩ => ⟨i, fed_of_rows hrows (hK i) h⟩
  by_cases hlen : 1 < rows.length
  · exact (transacted_follows hlen hact).mono
      fun t ok h => RowsFed.around (around_transacted around h)
  · unfold Driver.transacted
    rw [if_neg hlen]
    exact hact.mono fun t ok h => RowsFed.around (around h)

theorem Fed.empty : Fed i [] options false [] true where
  sent := List.nil_prefix
  sent_all _ := rfl
  bound_within h := absurd h List.not_mem_nil
  batch_wanted := nofun
  batch_supported := by simp

theorem accepted_follows {skip act : Act (Traced σ) Error α} {L : Protocol}
    (h : checkArity rows = .ok ()) (hskip : rows = [] → Follows skip L) (hact : Follows act L) :
    Follows (MonadExcept.ofExcept (checkArity rows) >>= fun _ : Unit =>
      if rows.isEmpty = true then skip else act) L := by
  rw [h]
  change Follows (if rows.isEmpty = true then skip else act) L
  split
  · exact hskip (List.isEmpty_iff.mp ‹_›)
  · exact hact

/-- Whatever the driver answers, an update feeds its statement the rows that it has accepted: no row
is lost, sent twice, out of turn or with values of another. -/
theorem update_fed (d : Driver σ) (sql : String) {rows : List (List Value)}
    (haccepted : checkArity rows = .ok ()) (options : Options) :
    Follows (d.traced.executeUpdate sql rows options)
        (RowsFed rows options) ∧
      ∀ {α β : Type} (keys : GeneratedKeys) (mapper : RowMapper α) (aggregate : List α → β),
        Follows (d.traced.executeUpdateWithKeys sql rows options keys mapper aggregate)
          (RowsFed rows options) := by
  have hrows : ∀ row ∈ rows, row.length = width rows := width_of_checkArity haccepted
  have skipped {α : Type} {text : String} {a : α} (h : rows = []) :
      Follows (ExceptT.lift (Session.debug text) >>= fun _ => pure a : Act (Traced σ) Error α)
        (RowsFed rows options) := by
    subst h
    refine ((Follows.debug text).bind fun _ => Follows.pure).mono fun t ok ht => ?_
    rw [done_then] at ht
    cases ht
    exact ⟨⟨0⟩, false, .empty⟩
  refine ⟨accepted_follows haccepted skipped ?_, fun keys mapper aggregate =>
    accepted_follows haccepted skipped ?_⟩
  · refine done_then (L := RowsFed rows options) ▸ Follows.bind (Follows.debug _) fun _ => ?_
    exact transacted_fed hrows (fun _ => .done) (runUpdate_follows fun i batch =>
      (runRows_follows i rows options.large batch).surfaced)
  · refine done_then (L := RowsFed rows options) ▸ Follows.bind (Follows.debug _) fun _ => ?_
    exact Follows.map (transacted_fed hrows (fun _ => .keys) (runUpdate_follows fun i batch =>
      runKeys_follows i rows options.large batch mapper))

open Database in
/-- Two rows of two values as a batch, on a driver that may be told to fail at any call. -/
theorem update_fed_two_rows :
    let rows : List (List Value) := [[.text "Ada", .null], [.text "Grace", .bool true]]
    let options : Options := { batch := true }
    checkArity rows = .ok () ∧ Follows (Scripted.driver.traced.executeUpdate "INSERT" rows options)
      (RowsFed rows options) := by
  intro rows options
  have haccepted : checkArity rows = .ok () := by rfl
  exact ⟨haccepted, (update_fed Scripted.driver "INSERT" haccepted options).1⟩

end SqlGateway
