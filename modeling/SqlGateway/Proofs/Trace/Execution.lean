import SqlGateway.Proofs.Trace.Update

/-!
# Updates follow their protocol

Each act that an update is made of follows its part of the protocol, whatever the driver answers.
-/

namespace SqlGateway

open Protocol

variable {σ ε α β : Type} {d : Driver σ}

/-! ## Settings -/

theorem Follows.tolerating {act : Act (Traced σ) Failure Unit} {c : Call} (setting : String)
    (h : ∀ s, ∃ answer : Except Failure c.Answer,
      (act.run s).2.trace = s.trace ++ [.call c answer] ∧
        (act.run s).1 = answer.map fun _ => ()) :
    Follows (tolerating setting act) (Hint c) := by
  refine Follows.of_since fun t => ?_
  -- the answer decides whether the failure is passed over
  have run : Triple (Since t (· = [])) act.run fun r => Since t fun u =>
      ∃ answer : Except Failure c.Answer, u = [.call c answer] ∧ r = answer.map fun _ => () := by
    rintro s ⟨u, hu, rfl⟩
    obtain ⟨answer, ht, hr⟩ := h s
    exact ⟨[.call c answer], by rw [List.append_nil] at hu; rw [← hu]; exact ht, answer, rfl, hr⟩
  refine Secures.bind (Secures.lift run) fun r => ?_
  cases r with
  | ok u =>
      refine Secures.pure fun s hs => hs.mono ?_
      rintro u ⟨answer, rfl, hr⟩
      cases answer with
      | ok a => exact .answered a
      | error f => cases hr
  | error f =>
      have failed (u : List Exchange) (hu : ∃ answer : Except Failure c.Answer,
          u = [.call c answer] ∧ Except.error f = answer.map fun _ => ()) :
          u = [.call c (.error f)] := by
        obtain ⟨answer, rfl, hr⟩ := hu
        cases answer <;> cases hr
        rfl
      dsimp only
      split
      · rename_i hf
        exact Secures.lift fun s hs => hs.mono fun u hu => failed u hu ▸ .passedOver hf
      · rename_i hf
        exact Secures.throw fun s hs => hs.mono fun u hu =>
          failed u hu ▸ .failed (Bool.eq_false_iff.mpr hf)

theorem except_unit_map (r : Except Failure Unit) : r = r.map fun _ => () := by
  cases r <;> rfl

theorem applyOptions_follows (i : StatementId) (options : Options) :
    Follows (d.traced.applyOptions i options) (Each Hint (Call.settings i options)) := by
  rw [Driver.applyOptions_eq, Call.settings, each_append]
  refine Follows.bind (Follows.forM (fun timeout => ?timeout) _) fun _ => ?_
  case timeout => exact Follows.tolerating _ fun s => ⟨_, rfl, except_unit_map _⟩
  refine Follows.bind (Follows.tolerating _ fun s => ⟨_, rfl, except_unit_map _⟩) fun _ => ?_
  refine Follows.bind (Follows.tolerating _ fun s => ⟨_, rfl, except_unit_map _⟩) fun _ => ?_
  rw [each_append]
  refine Follows.bind (Follows.forM (fun rows => ?fetchSize) _) fun _ => ?_
  case fetchSize => exact Follows.tolerating _ fun s => ⟨_, rfl, except_unit_map _⟩
  exact Follows.forM (fun rows => Follows.tolerating _ fun s => ⟨_, rfl, except_unit_map _⟩) _

/-! ## Rows -/

theorem bindFrom_follows (i : StatementId) (position : Nat) (values : List Value) :
    Follows (d.traced.bindFrom i position values)
      (Each Once (Call.bindings i position values)) := by
  induction values generalizing position with
  | nil => exact Follows.pure
  | cons value values ih => exact Follows.bind (.perform _) fun _ => ih (position + 1)

theorem addRows_follows (i : StatementId) (rows : List (List Value)) :
    Follows (d.traced.addRows i rows)
      (Each Once (rows.flatMap fun row => Call.bindings i 1 row ++ [.addBatch i])) := by
  induction rows with
  | nil => exact Follows.pure
  | cons row rows ih =>
      rw [List.flatMap_cons, List.append_assoc, each_append]
      refine Follows.bind (bindFrom_follows i 1 row) fun _ => ?_
      exact Follows.bind (.perform _) fun _ => ih

theorem executeRow_follows (i : StatementId) (large : Bool) :
    Follows (d.traced.executeRow i large) (Once (Call.execution i large)) := by
  cases large with
  | true => exact .perform _
  | false => exact Follows.map (.perform _)

/-- Calls that lead up to an execution, the execution, and what comes after it. -/
theorem Follows.execution {γ : Type} {first : Act (Traced σ) ε α} {last : Act (Traced σ) ε β}
    {f : β → Act (Traced σ) ε γ} {calls : List Call} {c : Call} {L : Protocol}
    (h : Follows first (Each Once calls)) (h' : Follows last (Once c))
    (hf : ∀ b, Follows (f b) L) :
    Follows (first >>= fun _ => last >>= f) (Then (Each Once (calls ++ [c])) L) := by
  rw [each_append, each_singleton, then_assoc]
  exact h.bind fun _ => h'.bind hf

theorem countEach_follows (i : StatementId) (large : Bool) (total : UInt64)
    (rows : List (List Value)) :
    Follows (d.traced.countEach i large total rows)
      (Executions Done (Call.executions i rows large false)) := by
  induction rows generalizing total with
  | nil => exact Follows.pure
  | cons row rows ih =>
      change Follows _ (Then (Then _ Done) _)
      rw [then_done]
      exact (bindFrom_follows i 1 row).execution (executeRow_follows i large) fun count => ih _

theorem runRows_follows (i : StatementId) (rows : List (List Value)) (large batch : Bool) :
    Follows (d.traced.runRows i rows large batch)
      (Executions Done (Call.executions i rows large batch)) := by
  cases batch with
  | true =>
      change Follows _ (Then (Then _ Done) Done)
      rw [then_done]
      exact (addRows_follows i rows).execution (.perform _) fun counts => .pure
  | false => exact countEach_follows i large 0 rows

/-! ## Keys -/

theorem traced_run {c : Call} {s s' : Session (Traced σ)} {r : Except Failure c.Answer}
    (h : (d.traced.perform c).run s = (r, s')) : s'.trace = s.trace ++ [.call c r] := by
  cases h
  rfl

theorem readRow_replays (k : CursorId) (reading : CellReading Error α) (s : Session (Traced σ)) :
    ∃ t, ((d.traced.readRow k reading).run s).2.trace = s.trace ++ t ∧
      Replays k reading.run t ((d.traced.readRow k reading).run s).1 := by
  have replay {γ : Type} (p : Reading CellRead CellRead.Answer γ) (s : Session (Traced σ)) :
      ∃ t, (p.run (d.traced.answerCell k) s).2.trace = s.trace ++ t ∧
        Replays k p t (p.run (d.traced.answerCell k) s).1 := by
    induction p generalizing s with
    | done a => exact ⟨[], (List.append_nil _).symm, .done a⟩
    | ask r next ih =>
        cases r with
        | object index =>
            obtain ⟨t, ht, h⟩ := ih _ (d.traced.perform (.getObject k index) s).2
            exact ⟨_ :: t, ht.trans (List.append_assoc _ [_] t), .object h⟩
        | binaryStream index =>
            obtain ⟨t, ht, h⟩ := ih _ (d.traced.perform (.getBinaryStream k index) s).2
            exact ⟨_ :: t, ht.trans (List.append_assoc _ [_] t), .binaryStream h⟩
        | characterStream index =>
            obtain ⟨t, ht, h⟩ := ih _ (d.traced.perform (.getCharacterStream k index) s).2
            exact ⟨_ :: t, ht.trans (List.append_assoc _ [_] t), .characterStream h⟩
  exact replay reading.run s

theorem keyRow_described (k : CursorId) (known : Option Row) (t : List Exchange) :
    Secures (Since t (· = [])) (d.traced.keyRow k known)
      (fun row => Since t (Described k known · row))
      (Since t fun u => known = none ∧ ∃ f, u = [.call (.columns k) (.error f)]) := by
  cases known with
  | some row =>
      refine Secures.pure fun s hs => hs.mono ?_
      rintro u rfl
      exact .known row
  | none =>
      refine Secures.bind (Since.perform (q := fun columns u =>
        Described k none u (Row.ofColumns columns)) ?_ ?_) fun columns =>
          Secures.pure fun _ hs => hs
      · rintro u columns rfl
        exact .first columns
      · rintro u f rfl
        exact ⟨rfl, f, rfl⟩

theorem drainRows_follows (k : CursorId) (mapper : RowMapper α) (known : Option Row)
    (s : Session (Traced σ)) :
    ∃ t, (d.traced.drainRows mapper k known s).2.trace = s.trace ++ t ∧
      KeyRows k mapper known t (d.traced.drainRows mapper k known s).1.toBool := by
  fun_induction d.traced.drainRows mapper k known s with
  | case1 known s f s₁ hn => exact ⟨_, traced_run hn, .unmoved f⟩
  | case2 known s s₁ hn => exact ⟨_, traced_run hn, .finished⟩
  | case3 known s s₁ hn f s₂ hr =>
      obtain ⟨t, ht, rfl, f', rfl⟩ := Triple.of_run (keyRow_described k known s₁.trace)
        (Since.refl s₁) hr
      rw [traced_run hn, List.append_assoc] at ht
      exact ⟨_, ht, .undescribed f'⟩
  | case4 known s s₁ hn row s₂ hr e s₃ hm =>
      obtain ⟨t, ht, hrow⟩ := Triple.of_run (keyRow_described k known s₁.trace) (Since.refl s₁) hr
      obtain ⟨u, hu, hmap⟩ := readRow_replays k (mapper row) s₂
      rw [hm] at hu hmap
      refine ⟨_, ?_, .unmapped hrow hmap⟩
      rw [hu, ht, traced_run hn]
      simp
  | case5 known s s₁ hn row s₂ hr a s₃ hm rest s₄ hrest ih =>
      obtain ⟨t, ht, hrow⟩ := Triple.of_run (keyRow_described k known s₁.trace) (Since.refl s₁) hr
      obtain ⟨u, hu, hmap⟩ := readRow_replays k (mapper row) s₂
      rw [hm] at hu hmap
      obtain ⟨v, hv, hleft⟩ := ih
      rw [hrest] at hv hleft
      refine ⟨.call (.next k) (.ok true) :: (t ++ u ++ v), ?_, ?_⟩
      · rw [hv, hu, ht, traced_run hn]
        simp
      · cases rest <;> exact .mapped hrow hmap hleft

theorem drain_follows (k : CursorId) (mapper : RowMapper α) :
    Follows (d.traced.drain mapper k)
      (Finally (KeyRows k mapper none) (Once (.closeCursor k))) := by
  refine Follows.of_since fun t => ?_
  refine Driver.drain_secures (M := fun ok => Since t (KeyRows k mapper none · ok))
    (R := fun ok => Since t (Finally (KeyRows k mapper none) (Once (.closeCursor k)) · ok)) ?_ ?_
  · rintro s ⟨u, hu, rfl⟩
    rw [List.append_nil] at hu
    exact hu ▸ drainRows_follows k mapper none s
  · refine fun ok => (Follows.perform _).since (fun u v hu hv => ?_) fun u v hu hv => ?_
    · exact Bool.and_true ok ▸ Finally.intro hu hv
    · exact Bool.and_false ok ▸ Finally.intro hu hv

theorem readKeys_follows (i : StatementId) (mapper : RowMapper α) :
    Follows (d.traced.readKeys i mapper) (Keys i mapper) := by
  refine Follows.of_since fun t => ?_
  have opened : Secures (Since t (· = [])) (d.traced.openKeys i)
      (fun k => Since t (· = [.call (.generatedKeys i k) (.ok ())]))
      (Since t (Keys i mapper · false)) := by
    refine Secures.bind (Secures.getState (Q := fun _ => Since t (· = [])) fun _ hs => hs)
      fun s₀ => ?_
    refine Secures.bind (Since.perform (q := fun _ u =>
      u = [.call (.generatedKeys i ⟨s₀.cursors + 1⟩) (.ok ())]) ?_ ?_) fun _ => ?_
    · rintro u a rfl
      rfl
    · rintro u f rfl
      exact .unopened _ f
    · exact Secures.bind (Secures.modifyState fun _ hs => hs) fun _ => Secures.pure fun _ hs => hs
  refine Secures.bind opened.surfaced fun k => (drain_follows k mapper).since ?_ ?_
  · rintro u v rfl hv
    exact .opened k hv
  · rintro u v rfl hv
    exact .opened k hv

theorem keysEach_follows (i : StatementId) (large : Bool) (mapper : RowMapper α)
    (rows : List (List Value)) :
    Follows (d.traced.keysEach i large mapper rows)
      (Executions (Keys i mapper) (Call.executions i rows large false)) := by
  induction rows with
  | nil => exact Follows.pure
  | cons row rows ih =>
      change Follows _ (Then (Then _ _) _)
      rw [then_assoc]
      refine (bindFrom_follows i 1 row).surfaced.execution
        (Follows.map (executeRow_follows i large).surfaced) fun _ => ?_
      refine (readKeys_follows i mapper).bind fun keys => ?_
      exact Follows.map ih

theorem runKeys_follows (i : StatementId) (rows : List (List Value)) (large batch : Bool)
    (mapper : RowMapper α) :
    Follows (d.traced.runKeys i rows large batch mapper)
      (Executions (Keys i mapper) (Call.executions i rows large batch)) := by
  cases batch with
  | true =>
      change Follows _ (Then _ Done)
      rw [then_done]
      exact (addRows_follows i rows).surfaced.execution (Follows.map (Follows.perform _).surfaced)
        fun _ => readKeys_follows i mapper
  | false => exact keysEach_follows i large mapper rows

/-! ## Updates -/

variable {L : Protocol} {rows : List (List Value)} {options : Options}

theorem useBatch_follows {i : StatementId} {action : Bool → Act (Traced σ) Error α}
    (h : ∀ batch, Follows (action batch)
      (Executions L (Call.executions i rows options.large batch))) :
    Follows (do action (← ExceptT.lift (d.traced.useBatch rows options)))
      (Rows i rows options L) := by
  unfold Driver.useBatch
  by_cases hbatch : (options.batch && 1 < rows.length) = true
  · rw [if_pos hbatch]
    refine Follows.of_since fun t => ?_
    refine Secures.bind (Secures.lift (Since.ask (r := fun batch u =>
      u = [.probe .supportsBatch batch]) ?_)) fun batch => (h batch).since ?_ ?_
    · rintro u batch rfl
      rfl
    · rintro u v rfl hv
      exact .asked hbatch batch hv
    · rintro u v rfl hv
      exact .asked hbatch batch hv
  · rw [if_neg hbatch]
    exact (h false).mono fun t ok ht => .unasked (Bool.eq_false_iff.mpr hbatch) ht

theorem runUpdate_follows {K : StatementId → Protocol} {sql : String} {keys : GeneratedKeys}
    {action : StatementId → Bool → Act (Traced σ) Error α}
    (h : ∀ i batch, Follows (action i batch)
      (Executions (K i) (Call.executions i rows options.large batch))) :
    Follows (d.traced.runUpdate sql keys rows options action)
      (Updated sql keys options fun i => Rows i rows options (K i)) := by
  refine Follows.of_since fun t => ?_
  let start (i : StatementId) : List Exchange :=
    [.probe .isClosed false, .call (.prepare i sql .dml keys) (.ok ())]
  let work (i : StatementId) : Protocol :=
    Then (Each Hint (Call.settings i options)) (Rows i rows options (K i))
  have prepare : Secures (Since t (· = [.probe .isClosed false]))
      (d.traced.prepare sql .dml keys) (fun i => Since t (· = start i))
      (Since t (Updated sql keys options (fun i => Rows i rows options (K i)) · false)) := by
    refine Secures.bind (Secures.getState (Q := fun _ => Since t (· = [.probe .isClosed false]))
      fun _ hs => hs) fun s₀ => ?_
    refine Secures.bind (Since.perform (q := fun _ u => u = start ⟨s₀.statements + 1⟩) ?_ ?_)
      fun _ => ?_
    · rintro u a rfl
      rfl
    · rintro u f rfl
      exact .unprepared _ f
    · exact Secures.bind (Secures.modifyState fun _ hs => hs) fun _ => Secures.pure fun _ hs => hs
  refine Secures.bind (Driver.runStatement_secures
    (A := fun closed => Since t (· = [.probe .isClosed closed]))
    (R := fun i => Since t (· = start i))
    (C := fun i => Since t fun u => ∃ v, u = start i ++ v ∧
      Each Hint (Call.settings i options) v true)
    (F := fun i => Since t fun u => ∃ v, u = start i ++ v ∧ work i v false)
    (W := fun i _ => Since t fun u => ∃ v, u = start i ++ v ∧ work i v true)
    (Since.ask ?_) ?_ prepare (fun i => ?_) (fun i => ?_) fun guard => ?_) fun r => ?_
  · rintro u closed rfl
    rfl
  · rintro s ⟨u, hu, rfl⟩
    exact ⟨_, hu, .closed⟩
  · refine (applyOptions_follows i options).since ?_ ?_
    · rintro u v rfl hv
      exact ⟨v, rfl, hv⟩
    · rintro u v rfl hv
      exact ⟨v, rfl, .stop hv⟩
  · refine (useBatch_follows (h i)).since ?_ ?_
    · rintro u v ⟨w, rfl, hw⟩ hv
      exact ⟨w ++ v, List.append_assoc _ _ _, .go hw hv⟩
    · rintro u v ⟨w, rfl, hw⟩ hv
      exact ⟨w ++ v, List.append_assoc _ _ _, .go hw hv⟩
  · refine Secures.orWarn Since.log ((Follows.perform _).since ?_ ?_)
    · rintro u v ⟨w, rfl, hw⟩ hv
      exact .prepared guard.statement (.intro hw hv)
    · rintro u v ⟨w, rfl, hw⟩ hv
      exact .prepared guard.statement (.intro hw hv)
  · obtain ⟨a, guard⟩ := r
    refine Secures.assuming fun _ => ?_
    refine Secures.bind ((Follows.perform (.closeStatement guard.statement)).surfaced.since
      (q := (Updated sql keys options (fun i => Rows i rows options (K i)) · true)) ?_ ?_) fun _ =>
        Secures.pure fun _ hs => hs
    · rintro u v ⟨w, rfl, hw⟩ hv
      exact .prepared guard.statement (.intro hw hv)
    · rintro u v ⟨w, rfl, hw⟩ hv
      exact .prepared guard.statement (.intro hw hv)

end SqlGateway
