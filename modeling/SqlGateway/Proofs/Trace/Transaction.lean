import SqlGateway.Database.Scripted.Driver
import SqlGateway.Proofs.Act.Transaction
import SqlGateway.Proofs.Trace.Execution

/-!
# What passes during a transaction

An update of several rows follows one protocol, whatever fails on the way: either it is committed,
or everything since the savepoint is undone, and each setting that was changed is put back.
-/

namespace SqlGateway

open Protocol

/-! ## Protocols -/

/-- The isolation level is changed where another one is wanted and supported. The level `b` is then
the one to go back to. -/
inductive Leveled (wanted : Option IsolationLevel) (b : IsolationLevel) :
    Option IsolationLevel → Protocol
  | kept (h : ∀ level, wanted = some level → level = b) : Leveled wanted b none [] true
  | unsupported {level : IsolationLevel} (h : wanted = some level) (hb : level ≠ b) :
      Leveled wanted b none [.probe (.supportsIsolation level) false] true
  | changed {level : IsolationLevel} (h : wanted = some level) (hb : level ≠ b) :
      Leveled wanted b (some b)
        [.probe (.supportsIsolation level) true, .call (.setIsolation level) (.ok ())] true
  | refused {level : IsolationLevel} (h : wanted = some level) (hb : level ≠ b) (f : Failure) :
      Leveled wanted b none
        [.probe (.supportsIsolation level) true, .call (.setIsolation level) (.error f)] false

/-- Auto-commit is put back, and then the isolation level if it was changed. -/
def Reset (a : Bool) (c : Option IsolationLevel) : Protocol :=
  Finally (Once (.setAutoCommit a)) (match c with
    | some b => Once (.setIsolation b)
    | none => Done)

/-- What has passed once a transaction has begun. -/
def opening (a : Bool) (b : IsolationLevel) (p : Savepoint) : List Exchange :=
  [.call .autoCommit (.ok a), .call .isolation (.ok b), .call (.setAutoCommit false) (.ok ()),
    .call .setSavepoint (.ok p)]

/-- A transaction in which something with `L` is done. It is undone if it does not come to the end
of its commit. -/
inductive Transacted (wanted : Option IsolationLevel) (L : Protocol) : Protocol
  | unasked (f : Failure) : Transacted wanted L [.call .autoCommit (.error f)] false
  | unread (a : Bool) (f : Failure) : Transacted wanted L
      [.call .autoCommit (.ok a), .call .isolation (.error f)] false
  | unswitched (a : Bool) (b : IsolationLevel) (f : Failure) : Transacted wanted L
      [.call .autoCommit (.ok a), .call .isolation (.ok b),
        .call (.setAutoCommit false) (.error f)] false
  | unmarked (a : Bool) (b : IsolationLevel) (f : Failure) {u : List Exchange} {ok : Bool}
      (hu : Reset a none u ok) : Transacted wanted L
      ([.call .autoCommit (.ok a), .call .isolation (.ok b), .call (.setAutoCommit false) (.ok ()),
        .call .setSavepoint (.error f)] ++ u) false
  | committed {a : Bool} {b : IsolationLevel} {p : Savepoint} {c : Option IsolationLevel}
      {t u : List Exchange} {ok : Bool}
      (ht : Then (Leveled wanted b c) (Then L (Once .commit)) t true) (hu : Reset a c u ok) :
      Transacted wanted L (opening a b p ++ t ++ u) ok
  | undone {a : Bool} {b : IsolationLevel} {p : Savepoint} {c : Option IsolationLevel}
      {t u : List Exchange} {ok : Bool}
      (ht : Then (Leveled wanted b c) (Then L (Once .commit)) t false)
      (hu : Finally (Finally (Once (.rollbackTo p)) (Once (.releaseSavepoint p))) (Reset a c)
        u ok) :
      Transacted wanted L (opening a b p ++ t ++ u) false

/-- Rows of unequal width are refused before anything has passed. -/
inductive Checked (rows : List (List Value)) (L : Protocol) : Protocol
  | refused {e : Error} (h : checkArity rows = .error e) : Checked rows L [] false
  | passed {t : List Exchange} {ok : Bool} (h : checkArity rows = .ok ()) (ht : L t ok) :
      Checked rows L t ok

/-! ## Traces are decisive -/

theorem Leveled.decisive {wanted : Option IsolationLevel} {b : IsolationLevel}
    {c c' : Option IsolationLevel} {t t' u u' : List Exchange} {ok ok' : Bool}
    (h : Leveled wanted b c t ok) (h' : Leveled wanted b c' t' ok') (heq : t ++ u = t' ++ u') :
    t = t' ∧ ok = ok' ∧ c = c' := by
  cases h with
  | kept h =>
      cases h' with
      | kept h' => exact ⟨rfl, rfl, rfl⟩
      | unsupported h' hb | changed h' hb | refused h' hb => exact absurd (h _ h') hb
  | unsupported h hb =>
      cases h' with
      | kept h' => exact absurd (h' _ h) hb
      | unsupported h' _ =>
          obtain rfl := Option.some.inj (h.symm.trans h')
          exact ⟨rfl, rfl, rfl⟩
      | changed h' _ | refused h' _ => cases (List.cons.inj heq).1
  | changed h hb =>
      cases h' with
      | kept h' => exact absurd (h' _ h) hb
      | unsupported h' _ => cases (List.cons.inj heq).1
      | changed h' _ =>
          obtain rfl := Option.some.inj (h.symm.trans h')
          exact ⟨rfl, rfl, rfl⟩
      | refused h' _ f => cases (List.cons.inj (List.cons.inj heq).2).1
  | refused h hb f =>
      cases h' with
      | kept h' => exact absurd (h' _ h) hb
      | unsupported h' _ => cases (List.cons.inj heq).1
      | changed h' _ => cases (List.cons.inj (List.cons.inj heq).2).1
      | refused h' _ f' =>
          obtain rfl := Option.some.inj (h.symm.trans h')
          cases (List.cons.inj (List.cons.inj heq).2).1
          exact ⟨rfl, rfl, rfl⟩

/-- The trace also shows whether the isolation level was changed. -/
theorem leveled_then_decisive {wanted : Option IsolationLevel} {b : IsolationLevel}
    {c c' : Option IsolationLevel} {L : Protocol} (hL : Decisive L) {t t' u u' : List Exchange}
    {ok ok' : Bool} (h : Then (Leveled wanted b c) L t ok)
    (h' : Then (Leveled wanted b c') L t' ok')
    (heq : t ++ u = t' ++ u') : t = t' ∧ ok = ok' ∧ c = c' := by
  cases h with
  | stop h =>
      cases h' with
      | stop h' => exact h.decisive h' heq
      | go h' _ =>
          rw [List.append_assoc] at heq
          cases (h.decisive h' heq).2.1
  | go h hu =>
      rw [List.append_assoc] at heq
      cases h' with
      | stop h' => cases (h.decisive h' heq).2.1
      | go h' hu' =>
          rw [List.append_assoc] at heq
          obtain ⟨rfl, -, rfl⟩ := h.decisive h' heq
          obtain ⟨rfl, rfl⟩ := hL hu hu' (List.append_cancel_left heq)
          exact ⟨rfl, rfl, rfl⟩

theorem Protocol.Decisive.reset (a : Bool) (c : Option IsolationLevel) : Decisive (Reset a c) :=
  (Decisive.once _).andFinally <| by
    cases c with
    | none => exact .done
    | some b => exact .once _

theorem opening_injective {a a' : Bool} {b b' : IsolationLevel} {p p' : Savepoint}
    {t t' : List Exchange} (h : opening a b p ++ t = opening a' b' p' ++ t') :
    a = a' ∧ b = b' ∧ p = p' ∧ t = t' := by
  simpa [opening] using h

theorem Protocol.Decisive.transacted {wanted : Option IsolationLevel} {L : Protocol}
    (hL : Decisive L) : Decisive (Transacted wanted L) := by
  intro t t' u u' ok ok' h h' heq
  have hcommit : Decisive (Then L (Once .commit)) := hL.andThen (.once _)
  cases h with
  | unasked f =>
      cases h' <;> simp [opening] at heq
      obtain ⟨rfl, -⟩ := heq
      exact ⟨rfl, rfl⟩
  | unread a f =>
      cases h' <;> simp [opening] at heq
      obtain ⟨rfl, rfl, -⟩ := heq
      exact ⟨rfl, rfl⟩
  | unswitched a b f =>
      cases h' <;> simp [opening] at heq
      obtain ⟨rfl, rfl, rfl, -⟩ := heq
      exact ⟨rfl, rfl⟩
  | unmarked a b f hu =>
      cases h' with
      | unmarked a' b' f' hu' =>
          simp at heq
          obtain ⟨rfl, rfl, rfl, htail⟩ := heq
          obtain ⟨rfl, -⟩ := Decisive.reset a none hu hu' htail
          exact ⟨rfl, rfl⟩
      | _ => simp [opening] at heq
  | committed ht hu =>
      cases h' with
      | committed ht' hu' =>
          simp only [List.append_assoc] at heq
          obtain ⟨rfl, rfl, rfl, htail⟩ := opening_injective heq
          obtain ⟨rfl, -, rfl⟩ := leveled_then_decisive hcommit ht ht' htail
          obtain ⟨rfl, rfl⟩ := Decisive.reset _ _ hu hu' (List.append_cancel_left htail)
          exact ⟨rfl, rfl⟩
      | undone ht' hu' =>
          simp only [List.append_assoc] at heq
          obtain ⟨rfl, rfl, rfl, htail⟩ := opening_injective heq
          cases (leveled_then_decisive hcommit ht ht' htail).2.1
      | _ => simp [opening] at heq
  | undone ht hu =>
      cases h' with
      | committed ht' hu' =>
          simp only [List.append_assoc] at heq
          obtain ⟨rfl, rfl, rfl, htail⟩ := opening_injective heq
          cases (leveled_then_decisive hcommit ht ht' htail).2.1
      | undone ht' hu' =>
          simp only [List.append_assoc] at heq
          obtain ⟨rfl, rfl, rfl, htail⟩ := opening_injective heq
          obtain ⟨rfl, -, rfl⟩ := leveled_then_decisive hcommit ht ht' htail
          obtain ⟨rfl, -⟩ := (((Decisive.once _).andFinally (.once _)).andFinally
            (Decisive.reset _ _)) hu hu' (List.append_cancel_left htail)
          exact ⟨rfl, rfl⟩
      | _ => simp [opening] at heq

theorem Protocol.Decisive.checked {rows : List (List Value)} {L : Protocol} (hL : Decisive L) :
    Decisive (Checked rows L) := by
  intro t t' u u' ok ok' h h' heq
  cases h with
  | refused h =>
      cases h' with
      | refused h' => exact ⟨rfl, rfl⟩
      | passed h' _ => exact absurd (h.symm.trans h') nofun
  | passed h ht =>
      cases h' with
      | refused h' => exact absurd (h.symm.trans h') nofun
      | passed h' ht' => exact hL ht ht' heq

/-! ## Transactions -/

variable {σ α : Type} {d : Driver σ} {t : List Exchange} {p p' : List Exchange → Prop}

theorem reset_follows {q : List Exchange → Prop} {a : Bool} {c : Option IsolationLevel}
    (h : ∀ u v ok, p u → Reset a c v ok → q (u ++ v)) :
    Triple (Since t p) (d.traced.restore a c) fun _ => Since t q := by
  refine Driver.restore_triple (Q := Since t fun u => ∃ v w ok, u = v ++ w ∧ p v ∧
    Once (.setAutoCommit a) w ok) Since.log Since.log ?_ ?_ ?_
  · exact (Follows.perform _).since_either fun u v ok hu hv => ⟨u, v, ok, rfl, hu, hv⟩
  · rintro b rfl
    refine (Follows.perform _).since_either ?_
    rintro u v ok ⟨v', w, ok', rfl, hp, hw⟩ hv
    rw [List.append_assoc]
    exact h _ _ _ hp (.intro hw hv)
  · rintro rfl s ⟨u, hu, v, w, ok, rfl, hp, hw⟩
    refine ⟨_, hu, ?_⟩
    have hreset : Reset a none (w ++ []) (ok && true) := .intro hw .intro
    rw [List.append_nil] at hreset
    exact h _ _ _ hp hreset

/-- What holds of the trace between the calls of a transaction. -/
def protocolOutline (d : Driver σ) (wanted : Option IsolationLevel) {L : Protocol}
    {act : Act (Traced σ) Error α} (hact : Follows act L) (t : List Exchange) :
    Outline d.traced wanted act (Since t (· = []))
      (fun _ => Since t (Transacted wanted L · true)) (Since t (Transacted wanted L · false)) where
  asked a := Since t (· = [.call .autoCommit (.ok a)])
  known a b := Since t (· = [.call .autoCommit (.ok a), .call .isolation (.ok b)])
  manual a b := Since t (· = [.call .autoCommit (.ok a), .call .isolation (.ok b),
    .call (.setAutoCommit false) (.ok ())])
  unmarked a b := Since t fun u => ∃ f, u = [.call .autoCommit (.ok a), .call .isolation (.ok b),
    .call (.setAutoCommit false) (.ok ()), .call .setSavepoint (.error f)]
  marked a b p := Since t (· = opening a b p)
  ready a b p c := Since t fun u => ∃ v, u = opening a b p ++ v ∧ Leveled wanted b c v true
  worked a b p c _ := Since t fun u => ∃ v, u = opening a b p ++ v ∧
    Then (Leveled wanted b c) L v true
  failing a b p c := Since t fun u => ∃ v, u = opening a b p ++ v ∧
    Then (Leveled wanted b c) (Then L (Once .commit)) v false
  committed a b c _ := Since t fun u => ∃ p v, u = opening a b p ++ v ∧
    Then (Leveled wanted b c) (Then L (Once .commit)) v true
  autoCommit := by
    refine Since.perform ?_ ?_
    · rintro u a rfl
      rfl
    · rintro u f rfl
      exact .unasked f
  isolation a := by
    refine Since.perform ?_ ?_
    · rintro u b rfl
      rfl
    · rintro u f rfl
      exact .unread a f
  setAutoCommit a b := by
    refine Since.perform ?_ ?_
    · rintro u _ rfl
      rfl
    · rintro u f rfl
      exact .unswitched a b f
  setSavepoint a b := by
    refine Since.perform ?_ ?_
    · rintro u p rfl
      rfl
    · rintro u f rfl
      exact ⟨f, rfl⟩
  restore a b := reset_follows fun u v ok ⟨f, hu⟩ hv => hu ▸ .unmarked a b f hv
  changeIsolation a b p := by
    refine Driver.changeIsolation_secures (A := fun level supported => Since t fun u =>
      u = opening a b p ++ [.probe (.supportsIsolation level) supported] ∧ wanted = some level ∧
        level ≠ b) ?_ ?_ ?_ ?_
    · rintro h s ⟨u, hu, rfl⟩
      exact ⟨_, hu, [], rfl, .kept h⟩
    · rintro level hlevel hb
      refine Since.ask ?_
      rintro u supported rfl
      exact ⟨rfl, hlevel, hb⟩
    · rintro level s ⟨u, hu, rfl, hlevel, hb⟩
      exact ⟨_, hu, _, rfl, .unsupported hlevel hb⟩
    · intro level
      refine Since.perform ?_ ?_
      · rintro u _ ⟨rfl, hlevel, hb⟩
        exact ⟨_, rfl, .changed hlevel hb⟩
      · rintro u f ⟨rfl, hlevel, hb⟩
        exact ⟨_, rfl, .stop (.refused hlevel hb f)⟩
  act a b p c := by
    refine hact.since ?_ ?_
    · rintro u w ⟨v, rfl, hv⟩ hw
      exact ⟨v ++ w, List.append_assoc _ _ _, .go hv hw⟩
    · rintro u w ⟨v, rfl, hv⟩ hw
      exact ⟨v ++ w, List.append_assoc _ _ _, .go hv (.stop hw)⟩
  commit a b p c x := by
    refine (Follows.perform .commit).since ?_ ?_
    · rintro u w ⟨v, rfl, hv⟩ hw
      exact ⟨p, v ++ w, List.append_assoc _ _ _, then_assoc ▸ Then.go hv hw⟩
    · rintro u w ⟨v, rfl, hv⟩ hw
      exact ⟨v ++ w, List.append_assoc _ _ _, then_assoc ▸ Then.go hv hw⟩
  putBack a b c x := by
    refine Driver.putBack_secures (R := fun ok => Since t (Transacted wanted L · ok))
      (M := fun ok => Since t fun u => ∃ p v w, u = opening a b p ++ v ++ w ∧
        Then (Leveled wanted b c) (Then L (Once .commit)) v true ∧
        Once (.setAutoCommit a) w ok) ?_ ?_ ?_
    · refine (Follows.perform _).since ?_ ?_
      · rintro u w ⟨p, v, rfl, hv⟩ hw
        exact ⟨p, v, w, rfl, hv, hw⟩
      · rintro u w ⟨p, v, rfl, hv⟩ hw
        exact ⟨p, v, w, rfl, hv, hw⟩
    · rintro b' rfl ok
      refine (Follows.perform _).since ?_ ?_
      · rintro u w' ⟨p, v, w, rfl, hv, hw⟩ hw'
        rw [List.append_assoc, ← Bool.and_true ok]
        exact .committed hv (.intro hw hw')
      · rintro u w' ⟨p, v, w, rfl, hv, hw⟩ hw'
        rw [List.append_assoc, ← Bool.and_false ok]
        exact .committed hv (.intro hw hw')
    · rintro rfl ok s ⟨u, hu, p, v, w, rfl, hv, hw⟩
      have hreset : Reset a none (w ++ []) (ok && true) := .intro hw .intro
      rw [List.append_nil, Bool.and_true] at hreset
      exact ⟨_, hu, .committed hv hreset⟩
  log a b p c := Since.log
  abort a b p c := by
    refine Triple.bind (Q := fun _ => Since t fun u => ∃ v w ok, u = opening a b p ++ v ++ w ∧
      Then (Leveled wanted b c) (Then L (Once .commit)) v false ∧ Once (.rollbackTo p) w ok)
      (Secures.orWarn Since.log ((Follows.perform _).since_either ?_)) fun _ => ?_
    · rintro u w ok ⟨v, rfl, hv⟩ hw
      exact ⟨v, w, ok, rfl, hv, hw⟩
    refine Triple.bind (Q := fun _ => Since t fun u => ∃ v w ok, u = opening a b p ++ v ++ w ∧
      Then (Leveled wanted b c) (Then L (Once .commit)) v false ∧
        Finally (Once (.rollbackTo p)) (Once (.releaseSavepoint p)) w ok)
      (Secures.orWarn Since.log ((Follows.perform _).since_either ?_)) fun _ => reset_follows ?_
    · rintro u w' ok' ⟨v, w, ok, rfl, hv, hw⟩ hw'
      exact ⟨v, w ++ w', _, List.append_assoc _ _ _, hv, .intro hw hw'⟩
    · rintro u w' ok' ⟨v, w, ok, rfl, hv, hw⟩ hw'
      rw [List.append_assoc]
      exact .undone hv (.intro hw hw')

theorem transacted_follows {rows : List (List Value)} {options : Options} {L : Protocol}
    {act : Act (Traced σ) Error α} (hlen : 1 < rows.length) (hact : Follows act L) :
    Follows (d.traced.transacted rows options act) (Transacted options.isolation L) := by
  unfold Driver.transacted
  rw [if_pos hlen]
  exact Follows.of_since fun t => (protocolOutline d options.isolation hact t).secures

/-! ## Updates of several rows -/

theorem checked_follows {rows : List (List Value)} {skip act : Act (Traced σ) Error α}
    {L : Protocol} (hlen : 1 < rows.length) (hact : Follows act L) :
    Follows (MonadExcept.ofExcept (checkArity rows) >>= fun _ : Unit =>
      if rows.isEmpty = true then skip else act) (Checked rows L) := by
  refine Follows.of_since fun t => Driver.checked_secures hlen (fun hok => ?_) fun e he s hs => ?_
  · refine hact.since ?_ ?_
    · rintro u v rfl hv
      exact .passed hok hv
    · rintro u v rfl hv
      exact .passed hok hv
  · obtain ⟨u, hu, rfl⟩ := hs
    exact ⟨[], hu, .refused he⟩

/-- An update of several rows. What is in `L` passes after each execution of its statement. -/
def RowsProtocol (sql : String) (keys : GeneratedKeys) (rows : List (List Value))
    (options : Options) (L : StatementId → Protocol) : Protocol :=
  Checked rows (Transacted options.isolation
    (Updated sql keys options fun i => Rows i rows options (L i)))

theorem rowsProtocol_decisive {sql : String} {keys : GeneratedKeys} {rows : List (List Value)}
    {options : Options} {L : StatementId → Protocol} (hL : ∀ i, Decisive (L i)) :
    Decisive (RowsProtocol sql keys rows options L) :=
  .checked (.transacted (.updated fun i => .rows (hL i)))

/-- Whatever the driver answers, an update of several rows follows the protocol of transactions,
with the preparation of its statement, its rows and the closing of its statement in between. What
has passed shows whether it was committed or undone. -/
theorem update_protocol (d : Driver σ) (sql : String) {rows : List (List Value)}
    (hlen : 1 < rows.length) (options : Options) :
    (Follows (d.traced.executeUpdate sql rows options)
          (RowsProtocol sql .none rows options fun _ => Done) ∧
        Decisive (RowsProtocol sql .none rows options fun _ => Done)) ∧
      ∀ {α β : Type} (keys : GeneratedKeys) (mapper : RowMapper α) (aggregate : List α → β),
        Follows (d.traced.executeUpdateWithKeys sql rows options keys mapper aggregate)
            (RowsProtocol sql (if keys.isRequested then keys else .all) rows options
              fun i => Keys i mapper) ∧
          Decisive (RowsProtocol sql (if keys.isRequested then keys else .all) rows options
            fun i => Keys i mapper) := by
  refine ⟨⟨?_, rowsProtocol_decisive fun _ => .done⟩, fun keys mapper aggregate =>
    ⟨?_, rowsProtocol_decisive fun _ => .keys⟩⟩
  · refine checked_follows hlen ?_
    refine done_then (L := Transacted _ _) ▸ Follows.bind (Follows.debug _) fun _ => ?_
    exact transacted_follows hlen (runUpdate_follows fun i batch =>
      (runRows_follows i rows options.large batch).surfaced)
  · refine checked_follows hlen ?_
    refine done_then (L := Transacted _ _) ▸ Follows.bind (Follows.debug _) fun _ => ?_
    exact Follows.map (transacted_follows hlen (runUpdate_follows fun i batch =>
      runKeys_follows i rows options.large batch mapper))

open Database in
/-- Two rows at another isolation level, on a driver that may be told to fail at any call. -/
theorem update_protocol_two_rows :
    let rows : List (List Value) := [[.text "Ada"], [.null]]
    let options : Options := { isolation := some .serializable }
    1 < rows.length ∧ Follows (Scripted.driver.traced.executeUpdate "INSERT" rows options)
      (RowsProtocol "INSERT" .none rows options fun _ => Done) := by
  intro rows options
  have hlen : 1 < rows.length := Nat.one_lt_two
  exact ⟨hlen, (update_protocol Scripted.driver "INSERT" hlen options).1.1⟩

end SqlGateway
