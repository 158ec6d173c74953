import Mathlib.Data.List.Nodup
import SqlGateway.Database.Scripted.Driver
import SqlGateway.Proofs.Custody.Client
import SqlGateway.Proofs.Trace.Basic

/-!
# The life of statements and cursors

On every trace that the library leaves, a statement or cursor is made once, is closed at most once,
and is not heard of after that; and cursors are closed before their statement.
-/

namespace SqlGateway

variable {σ τ α : Type}

/-! ## What an exchange does to statements and cursors -/

namespace Exchange

/-- What is open from this exchange on. -/
def made? : Exchange → Option Handle
  | .call (.prepare i _ _ _) (.ok _) => some (.statement i)
  | .call (.resultCursor _ c) (.ok true) => some (.cursor c)
  | .call (.generatedKeys _ c) (.ok _) => some (.cursor c)
  | _ => none

/-- What is closed here, whether the driver reports success or not. -/
def closed? : Exchange → Option Handle
  | .call (.closeStatement i) _ => some (.statement i)
  | .call (.closeCursor c) _ => some (.cursor c)
  | _ => none

/-- What the call is made on. -/
def used? : Exchange → Option Handle
  | .call c _ => c.handle?
  | .probe _ _ => none

/-- The cursor that is open from this exchange on, and its statement. -/
def opened? : Exchange → Option (StatementId × CursorId)
  | .call (.resultCursor i c) (.ok true) => some (i, c)
  | .call (.generatedKeys i c) (.ok _) => some (i, c)
  | _ => none

end Exchange

/-- All that was made on a trace, in order. -/
def madeOn (t : List Exchange) : List Handle :=
  t.filterMap Exchange.made?

/-- All that was closed on a trace, in order. -/
def closedOn (t : List Exchange) : List Handle :=
  t.filterMap Exchange.closed?

theorem madeOn_snoc (t : List Exchange) (e : Exchange) :
    madeOn (t ++ [e]) = madeOn t ++ e.made?.toList := by
  unfold madeOn
  rw [List.filterMap_append]
  cases h : e.made? <;> simp [h]

theorem closedOn_snoc (t : List Exchange) (e : Exchange) :
    closedOn (t ++ [e]) = closedOn t ++ e.closed?.toList := by
  unfold closedOn
  rw [List.filterMap_append]
  cases h : e.closed? <;> simp [h]

/-- How statements and cursors are used on a trace. -/
structure Orderly (t : List Exchange) : Prop where
  /-- No name stands for two statements or for two cursors. -/
  made_once : (madeOn t).Nodup
  /-- Only what was made is closed, and only once. -/
  closed_once : (closedOn t).Nodup
  closed_made : closedOn t ⊆ madeOn t
  /-- No call is made on what is closed. -/
  silent : t.Pairwise fun e f => ∀ h, e.closed? = some h → f.used? ≠ some h
  /-- A cursor is closed before its statement. -/
  inner_first : ∀ e ∈ t, ∀ i c, e.opened? = some (i, c) →
    t.Pairwise fun e f => e.closed? = some (.statement i) → f.closed? ≠ some (.cursor c)

/-- All that was made has been closed. -/
def ClosedUp (t : List Exchange) : Prop :=
  ∀ h ∈ madeOn t, (closedOn t).count h = 1

namespace Exchange

variable {e : Exchange} {h : Handle} {i : StatementId} {c : CursorId}

theorem used_of_closed (he : e.closed? = some h) : e.used? = some h := by
  cases e with
  | probe => cases he
  | call c answer => cases c <;> first | exact he | cases he

theorem made_of_opened (he : e.opened? = some (i, c)) : e.made? = some (.cursor c) := by
  unfold opened? at he
  split at he <;> cases he <;> rfl

theorem closed_of_opened (he : e.opened? = some (i, c)) : e.closed? = none := by
  unfold opened? at he
  split at he <;> cases he <;> rfl

/-- Most calls neither open nor close anything. -/
theorem of_movesHandles {c : Call} (hc : c.movesHandles = false)
    (answer : Except Failure c.Answer) :
    (call c answer).made? = none ∧ (call c answer).closed? = none ∧
      (call c answer).opened? = none := by
  cases c <;> first | exact ⟨rfl, rfl, rfl⟩ | cases hc

end Exchange

/-! ## Keeping the books -/

/-- What is known of a trace on which `n` statements and `m` cursors were made, and which leaves `L`
open. -/
structure Books (n m : Nat) (L : List Holding) (t : List Exchange) : Prop where
  named : ∀ h ∈ madeOn t, h.UpTo n m
  nodup : (madeOn t).Nodup
  balance : (handlesOf L ++ closedOn t).Perm (madeOn t)
  owner : ∀ e ∈ t, ∀ i c, e.opened? = some (i, c) → .cursor c ∈ closedOn t ∨ ⟨i, some c⟩ ∈ L
  silent : t.Pairwise fun e f => ∀ h, e.closed? = some h → f.used? ≠ some h
  inner_first : ∀ e ∈ t, ∀ i c, e.opened? = some (i, c) →
    t.Pairwise fun e f => e.closed? = some (.statement i) → f.closed? ≠ some (.cursor c)

namespace Books

variable {n m n' m' : Nat} {L L' : List Holding} {t : List Exchange} {e : Exchange}

theorem nil : Books 0 0 [] [] where
  named _ hm := absurd hm List.not_mem_nil
  nodup := List.nodup_nil
  balance := List.Perm.nil
  owner _ he := absurd he List.not_mem_nil
  silent := List.Pairwise.nil
  inner_first _ he := absurd he List.not_mem_nil

theorem not_closed (hb : Books n m L t) {h : Handle} (hh : h ∈ handlesOf L) : h ∉ closedOn t := by
  have hnodup := hb.balance.nodup_iff.mpr hb.nodup
  exact fun hc => (List.nodup_append.mp hnodup).2.2 h hh h hc rfl

theorem orderly (hb : Books n m L t) : Orderly t where
  made_once := hb.nodup
  closed_once := (List.nodup_append.mp (hb.balance.nodup_iff.mpr hb.nodup)).2.1
  closed_made _ hc := hb.balance.mem_iff.mp (List.mem_append_right _ hc)
  silent := hb.silent
  inner_first := hb.inner_first

theorem closedUp (hb : Books n m [] t) : ClosedUp t := by
  intro h hm
  exact List.count_eq_one_of_mem hb.orderly.closed_once (hb.balance.mem_iff.mpr hm)

theorem perm (hL : L.Perm L') (hb : Books n m L t) : Books n m L' t where
  named := hb.named
  nodup := hb.nodup
  balance := ((hL.flatMap_right _).symm.append_right _).trans hb.balance
  owner e he i c ho := (hb.owner e he i c ho).imp_right hL.mem_iff.mp
  silent := hb.silent
  inner_first := hb.inner_first

/-- One more exchange: it is made on what is open, what it opens has a new name, and `L'` is open
after it. -/
theorem snoc (hb : Books n m L t) (hn : n ≤ n') (hm : m ≤ m')
    (hnew : ∀ h, e.made? = some h → h.UpTo n' m' ∧ ¬ h.UpTo n m)
    (hused : ∀ h, e.used? = some h → h ∈ handlesOf L)
    (hopen : (handlesOf L' ++ e.closed?.toList).Perm (e.made?.toList ++ handlesOf L))
    (hkept : ∀ i c, ⟨i, some c⟩ ∈ L → e.closed? = some (.cursor c) ∨ ⟨i, some c⟩ ∈ L')
    (hopened : ∀ i c, e.opened? = some (i, c) → ⟨i, some c⟩ ∈ L') :
    Books n' m' L' (t ++ [e]) := by
  have hmade : madeOn (t ++ [e]) = madeOn t ++ e.made?.toList := madeOn_snoc t e
  have hclosed : closedOn (t ++ [e]) = closedOn t ++ e.closed?.toList := closedOn_snoc t e
  have honce : ∀ h, h ∈ madeOn t → e.made? ≠ some h :=
    fun h hm he => (hnew h he).2 (hb.named h hm)
  have hused' : ∀ h, e.closed? = some h → h ∈ handlesOf L :=
    fun h he => hused h (Exchange.used_of_closed he)
  constructor
  case named =>
      intro h hm
      rw [hmade, List.mem_append, Option.mem_toList] at hm
      rcases hm with hm | hm
      · exact (hb.named h hm).mono ‹_› ‹_›
      · exact (hnew h hm).1
  case nodup =>
      rw [hmade, List.nodup_append]
      refine ⟨hb.nodup, Option.toList_nodup _, fun h hm h' he heq => ?_⟩
      exact honce h hm (heq ▸ Option.mem_toList.mp he)
  case balance =>
      rw [hmade, hclosed]
      calc
        (handlesOf L' ++ (closedOn t ++ e.closed?.toList)).Perm
            (handlesOf L' ++ (e.closed?.toList ++ closedOn t)) :=
          List.perm_append_comm.append_left _
        List.Perm _ (e.made?.toList ++ handlesOf L ++ closedOn t) := by
          rw [← List.append_assoc]
          exact hopen.append_right _
        List.Perm _ (madeOn t ++ e.made?.toList) := by
          rw [List.append_assoc]
          exact (hb.balance.append_left _).trans List.perm_append_comm
  case owner =>
      intro e' he' i c ho
      rw [hclosed, List.mem_append, Option.mem_toList]
      rcases List.mem_append.mp he' with he' | he'
      · rcases hb.owner e' he' i c ho with hc | hc
        · exact .inl (.inl hc)
        · exact (hkept i c hc).imp_left .inr
      · cases List.mem_singleton.mp he'
        exact .inr (hopened i c ho)
  case silent =>
      refine List.pairwise_append.mpr ⟨hb.silent, List.pairwise_singleton _ _, ?_⟩
      intro a ha b hb' h hc hu
      cases List.mem_singleton.mp hb'
      exact hb.not_closed (hused h hu) (List.mem_filterMap.mpr ⟨a, ha, hc⟩)
  case inner_first =>
      intro e' he' i c ho
      refine List.pairwise_append.mpr ⟨?_, List.pairwise_singleton _ _, ?_⟩
      · rcases List.mem_append.mp he' with he' | he'
        · exact hb.inner_first e' he' i c ho
        · cases List.mem_singleton.mp he'
          refine hb.silent.imp_of_mem fun _ hmem _ _ hc => ?_
          have hclosed : .cursor c ∈ closedOn t := List.mem_filterMap.mpr ⟨_, hmem, hc⟩
          exact honce _ (hb.orderly.closed_made hclosed) (Exchange.made_of_opened ho)
      · intro a ha b hmem hi hc
        cases List.mem_singleton.mp hmem
        rcases List.mem_append.mp he' with he' | he'
        · have hopen := hused' _ hc
          rcases hb.owner e' he' i c ho with hclosed | hheld
          · exact hb.not_closed hopen hclosed
          · exact hb.not_closed (mem_handlesOf hheld) (List.mem_filterMap.mpr ⟨a, ha, hi⟩)
        · cases List.mem_singleton.mp he'
          rw [Exchange.closed_of_opened ho] at hc
          cases hc

/-! ### One lemma for each kind of exchange -/

theorem probe (hb : Books n m L t) (p : Probe) (answer : Bool) :
    Books n m L (t ++ [.probe p answer]) :=
  hb.snoc (Nat.le_refl _) (Nat.le_refl _) nofun nofun (List.Perm.of_eq (List.append_nil _))
    (fun _ _ h => .inr h) nofun

theorem work (hb : Books n m L t) {c : Call} (hc : c.movesHandles = false)
    (hused : ∀ h, c.handle? = some h → h ∈ handlesOf L) (answer : Except Failure c.Answer) :
    Books n m L (t ++ [.call c answer]) := by
  obtain ⟨hmade, hclosed, hopened⟩ := Exchange.of_movesHandles hc answer
  refine hb.snoc (Nat.le_refl _) (Nat.le_refl _) ?_ hused ?_ (fun _ _ h => .inr h) ?_
  · rw [hmade]
    exact nofun
  · rw [hmade, hclosed]
    exact List.Perm.of_eq (List.append_nil _)
  · rw [hopened]
    exact nofun

theorem prepared (hb : Books n m L t) {sql : String} {kind : StatementKind} {keys : GeneratedKeys} :
    Books (n + 1) m (⟨⟨n + 1⟩, none⟩ :: L)
      (t ++ [.call (.prepare ⟨n + 1⟩ sql kind keys) (.ok ())]) := by
  refine hb.snoc (Nat.le_succ _) (Nat.le_refl _) ?_ nofun (List.Perm.of_eq (List.append_nil _))
    (fun _ _ h => .inr (List.mem_cons_of_mem _ h)) nofun
  rintro h ⟨⟩
  exact ⟨Nat.le_refl _, Nat.not_succ_le_self _⟩

theorem unprepared (hb : Books n m L t) {i : StatementId} {sql : String} {kind : StatementKind}
    {keys : GeneratedKeys} {f : Failure} :
    Books n m L (t ++ [.call (.prepare i sql kind keys) (.error f)]) :=
  hb.snoc (Nat.le_refl _) (Nat.le_refl _) nofun nofun (List.Perm.of_eq (List.append_nil _))
    (fun _ _ h => .inr h) nofun

theorem opened {i : StatementId} {L : List Holding} (hb : Books n m (⟨i, none⟩ :: L) t)
    (he : e.opened? = some (i, ⟨m + 1⟩)) (hu : e.used? = some (.statement i)) :
    Books n (m + 1) (⟨i, some ⟨m + 1⟩⟩ :: L) (t ++ [e]) := by
  have hmade := Exchange.made_of_opened he
  have hclosed := Exchange.closed_of_opened he
  refine hb.snoc (Nat.le_refl _) (Nat.le_succ _) ?_ ?_ ?_ ?_ ?_
  · rw [hmade]
    rintro h ⟨⟩
    exact ⟨Nat.le_refl _, Nat.not_succ_le_self _⟩
  · rw [hu]
    rintro h ⟨⟩
    exact List.mem_cons_self
  · rw [hmade, hclosed]
    exact (List.Perm.of_eq (List.append_nil _)).trans (List.Perm.swap _ _ _)
  · intro j c hj
    rcases List.mem_cons.mp hj with hj | hj
    · cases hj
    · exact .inr (List.mem_cons_of_mem _ hj)
  · rw [he]
    rintro j c ⟨⟩
    exact List.mem_cons_self

theorem unopened (hb : Books n m L t) (hmade : e.made? = none) (hclosed : e.closed? = none)
    (hopened : e.opened? = none) {i : StatementId} (hu : e.used? = some (.statement i))
    (hi : .statement i ∈ handlesOf L) : Books n m L (t ++ [e]) := by
  refine hb.snoc (Nat.le_refl _) (Nat.le_refl _) ?_ ?_ ?_ (fun _ _ h => .inr h) ?_
  · rw [hmade]
    exact nofun
  · rw [hu]
    rintro h ⟨⟩
    exact hi
  · rw [hmade, hclosed]
    exact List.Perm.of_eq (List.append_nil _)
  · rw [hopened]
    exact nofun

theorem closedCursor {i : StatementId} {k : CursorId} {L : List Holding}
    (hb : Books n m (⟨i, some k⟩ :: L) t) (answer : Except Failure Unit) :
    Books n m (⟨i, none⟩ :: L) (t ++ [.call (.closeCursor k) answer]) := by
  refine hb.snoc (Nat.le_refl _) (Nat.le_refl _) nofun ?_ ?_ ?_ nofun
  · rintro h ⟨⟩
    exact List.mem_cons_of_mem _ List.mem_cons_self
  · exact (List.perm_append_singleton _ _).trans (List.Perm.swap _ _ _)
  · intro j c hj
    rcases List.mem_cons.mp hj with hj | hj
    · cases hj
      exact .inl rfl
    · exact .inr (List.mem_cons_of_mem _ hj)

theorem closedStatement {i : StatementId} {L : List Holding} (hb : Books n m (⟨i, none⟩ :: L) t)
    (answer : Except Failure Unit) :
    Books n m L (t ++ [.call (.closeStatement i) answer]) := by
  refine hb.snoc (Nat.le_refl _) (Nat.le_refl _) nofun ?_ (List.perm_append_singleton _ _) ?_ nofun
  · rintro h ⟨⟩
    exact List.mem_cons_self
  · intro j c hj
    rcases List.mem_cons.mp hj with hj | hj
    · cases hj
    · exact .inr hj

end Books

/-! ## The books of a session -/

/-- The books of a session in which `L` is open are in order. -/
def Booked (L : List Holding) (s : Session (Traced σ)) : Prop :=
  Books s.statements s.cursors L s.trace

theorem booked_work (d : Driver σ) {c : Call} {L : List Holding} (hc : c.movesHandles = false)
    (hused : ∀ h, c.handle? = some h → h ∈ handlesOf L) :
    Keeps (Booked L) (d.traced.perform c) :=
  d.traced_perform (fun _ _ _ _ hs => hs.work hc hused _) fun _ _ _ _ hs => hs.work hc hused _

theorem booked_prepare (d : Driver σ) (sql : String) (kind : StatementKind) (keys : GeneratedKeys)
    (L : List Holding) :
    Secures (Booked L) (d.traced.prepare sql kind keys) (fun i => Booked (⟨i, none⟩ :: L))
      (Booked L) := by
  refine Driver.prepare_secures fun s₀ => d.traced_perform ?_ ?_
  · rintro s answer _ _ ⟨rfl, hs⟩
    exact hs.prepared
  · rintro s f _ _ ⟨rfl, hs⟩
    exact hs.unprepared

theorem booked_openCursor (d : Driver σ) (i : StatementId) (L : List Holding) :
    Secures (Booked (⟨i, none⟩ :: L)) (d.traced.openCursor i) (fun o => Booked (⟨i, o⟩ :: L))
      (Booked (⟨i, none⟩ :: L)) := by
  refine Driver.openCursor_secures fun s₀ => d.traced_perform ?_ ?_
  · rintro s opened _ _ ⟨rfl, hs⟩
    cases opened with
    | true => exact hs.opened rfl rfl
    | false => exact hs.unopened rfl rfl rfl rfl List.mem_cons_self
  · rintro s f _ _ ⟨rfl, hs⟩
    exact hs.unopened rfl rfl rfl rfl List.mem_cons_self

theorem booked_openKeys (d : Driver σ) (i : StatementId) (L : List Holding) :
    Secures (Booked (⟨i, none⟩ :: L)) (d.traced.openKeys i) (fun k => Booked (⟨i, some k⟩ :: L))
      (Booked (⟨i, none⟩ :: L)) := by
  refine Driver.openKeys_secures fun s₀ => d.traced_perform ?_ ?_
  · rintro s answer _ _ ⟨rfl, hs⟩
    exact hs.opened rfl rfl
  · rintro s f _ _ ⟨rfl, hs⟩
    exact hs.unopened rfl rfl rfl rfl List.mem_cons_self

/-- The books are in custody, for every driver. -/
theorem booked_custody (d : Driver σ) : Custody d.traced Booked where
  perm hL hs := Books.perm hL hs
  log _ hs := hs
  ask _ _ := d.traced_ask fun _ _ _ _ hs => hs.probe _ _
  acquire _ := booked_work d rfl nofun
  prepare := booked_prepare d
  workStatement h o L := booked_work d h.2 fun h' hh => by
    obtain rfl := Option.some.inj (h.1.symm.trans hh)
    exact List.mem_cons_self
  workCursor h i L := booked_work d h.2 fun h' hh => by
    obtain rfl := Option.some.inj (h.1.symm.trans hh)
    exact List.mem_cons_of_mem _ List.mem_cons_self
  openCursor := booked_openCursor d
  openKeys := booked_openKeys d
  closeCursor _ _ _ :=
    d.traced_perform (fun _ _ _ _ hs => hs.closedCursor _) fun _ _ _ _ hs => hs.closedCursor _
  closeStatement _ _ :=
    d.traced_perform (fun _ _ _ _ hs => hs.closedStatement _) fun _ _ _ _ hs => hs.closedStatement _

theorem booked_stewardship (d : Driver σ) :
    Stewardship d.traced fun _ : Unit => Booked :=
  (booked_custody d).stewardship fun L c hc => by
    obtain ⟨hnone, hmoves⟩ := Call.handle?_of_isTransactional hc
    refine booked_work d hmoves fun h hh => ?_
    rw [hnone] at hh
    cases hh

/-! ## All runs -/

/-- A move that gives no row leaves the cursor closed, and so does mapping all the rows. -/
def ResultCursor.EndsClosed (d : Driver σ) (cursor : ResultCursor τ) : Prop :=
  (∀ s, (∀ row, (d.nextRow cursor s).1.1 ≠ .ok (some row)) →
    (d.nextRow cursor s).1.2.isClosed = true) ∧
  ∀ {β : Type} (mapper : RowMapper β) (s : Session σ),
    (d.mapRows mapper none cursor s).1.2.isClosed = true

theorem ResultCursor.Sound.endsClosed {d : Driver σ} {cursor : ResultCursor τ}
    (h : cursor.Sound) : cursor.EndsClosed d :=
  ⟨fun s => Driver.nextRow_isClosed h s, fun mapper s => Driver.mapRows_isClosed mapper h s⟩

/-- Whatever the driver does, and whichever steps a client takes through the library, statements and
cursors are used in an orderly way. A cursor that the client keeps is closed once it is read to its
end or has failed. Once all of them are closed, everything that was made has been closed; so it has
once the client gives up what it keeps. -/
theorem library_orderly (d : Driver σ) (database : σ) (gateway : Gateway)
    {steps : List (Step (Traced σ) α)} (hs : ∀ step ∈ steps, step.isLibrary = true) :
    let client := (Client.watched database gateway).after d.traced steps
    Orderly client.session.trace ∧
      (∀ e ∈ client.cursors, e.2.EndsClosed d.traced) ∧
      ((∀ e ∈ client.cursors, e.2.isClosed = true) → ClosedUp client.session.trace) ∧
      Orderly (client.finish d.traced).session.trace ∧
      ClosedUp (client.finish d.traced).session.trace := by
  intro client
  have hk : Client.Keeping Booked id [] client :=
    (booked_stewardship d).after () hs (Client.watched_keeping gateway Books.nil)
  have hfinish := (booked_stewardship d).finish () hk
  refine ⟨hk.open_.orderly, fun e he => (hk.sound e he).endsClosed, fun hclosed => ?_,
    hfinish.orderly, hfinish.closedUp⟩
  have hnone : Registry.holdings client.cursors = [] := by
    refine List.flatMap_eq_nil_iff.mpr fun e he => ?_
    exact ((hk.sound e he).spent (hclosed e he)).holdings
  have hbooks := hk.open_
  rw [id_eq, hnone] at hbooks
  exact hbooks.closedUp

open Database in
/-- A query whose cursor is closed at once, where the driver fails to close it. -/
theorem library_orderly_failed_close :
    let steps : List (Step (Traced Scripted) Unit) :=
      [.operation (.select "SELECT 1" .none {} (.fetch (.keep 1))), .operation (.close 1)]
    let database : Scripted :=
      { queue := [.ok { results := [some ⟨[], []⟩] }]
        faults := [{ call := "close_cursor", failure := .plain "gone" }] }
    let client := (Client.watched database {}).after Scripted.driver.traced steps
    madeOn client.session.trace = [.statement ⟨1⟩, .cursor ⟨1⟩] ∧ ClosedUp client.session.trace :=
  ⟨by decide +kernel, (library_orderly Scripted.driver _ {} (by decide)).2.2.1 (by decide +kernel)⟩

end SqlGateway
