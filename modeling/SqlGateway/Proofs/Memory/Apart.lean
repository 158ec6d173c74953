import SqlGateway.Database.Memory.Procedure
import SqlGateway.Proofs.Custody.Beside
import SqlGateway.Proofs.Memory.Custody

/-!
# Cursors that are open side by side

What a statement or a cursor holds is left alone by calls on others. So a client sees the same of a
cursor whatever it does with others in between.
-/

namespace SqlGateway

/-- What is there after a call if it succeeds. -/
def Call.makes? : Call → Option Handle
  | .prepare i _ _ _ => some (.statement i)
  | .resultCursor _ c | .generatedKeys _ c => some (.cursor c)
  | _ => none

theorem Call.makes?_of_movesHandles {c : Call} (hc : c.movesHandles = false) : c.makes? = none := by
  cases c <;> first | rfl | cases hc

namespace Database.Memory

/-! ## What statements and cursors hold -/

def content (db : Memory) : Handle → MemoryStatement ⊕ CursorState Value
  | .statement i => .inl (db.statement i)
  | .cursor c => .inr (db.cursor c)

variable {x : Handle} {i : StatementId}

theorem content_putStatement (h : some (Handle.statement i) ≠ some x) (db : Memory)
    (statement : MemoryStatement) : (db.putStatement i statement).content x = db.content x := by
  cases x with
  | cursor c => rfl
  | statement j =>
      refine congrArg Sum.inl ((statement_putStatement db i j statement).trans (if_neg ?_))
      rintro rfl
      exact h rfl

theorem content_putCursor {c : CursorId} (h : some (Handle.cursor c) ≠ some x) (db : Memory)
    (cursor : CursorState Value) : (db.putCursor c cursor).content x = db.content x := by
  cases x with
  | statement i => rfl
  | cursor k =>
      refine congrArg Sum.inr ((cursor_putCursor db c k cursor).trans (if_neg ?_))
      rintro rfl
      exact h rfl

theorem content_run (h : some (Handle.statement i) ≠ some x) (db : Memory) (values : List Value) :
    (db.run i values).2.content x = db.content x := by
  unfold run
  dsimp only
  split
  · rfl
  · split
    · exact content_putStatement h _ _
    · rfl

theorem content_runEach (h : some (Handle.statement i) ≠ some x) (db : Memory)
    (rows : List (List Value)) : (db.runEach i rows).2.content x = db.content x := by
  induction rows generalizing db with
  | nil => rfl
  | cons values rows ih =>
      have hr := content_run h db values
      unfold runEach
      split <;> rename_i heq <;> rw [heq] at hr
      · exact hr
      · exact (ih _).trans hr

theorem content_execute (h : some (Handle.statement i) ≠ some x) (db : Memory) :
    (db.execute i).2.content x = db.content x := by
  have hr := content_run h db (db.statement i).values
  unfold execute
  split <;> rename_i heq <;> rw [heq] at hr
  · exact hr
  · exact (content_putStatement h _ _).trans hr

theorem content_countBatch (h : some (Handle.statement i) ≠ some x) (db : Memory) :
    (db.countBatch i).2.content x = db.content x := by
  have hr := (content_runEach h (db.putStatement i { db.statement i with added := [] })
    (db.statement i).added).trans (content_putStatement h db _)
  unfold countBatch
  split
  · dsimp only
    split <;> rename_i heq <;> rw [heq] at hr
    · exact hr
    · exact (content_putStatement h _ _).trans hr
  · rfl

/-- A call leaves alone what it is not made on and does not make. -/
theorem content_call (db : Memory) {c : Call} (hx : c.handle? ≠ some x) (hm : c.makes? ≠ some x) :
    (call c db).2.content x = db.content x := by
  cases c with
  | prepare i sql kind keys =>
      simp only [call, prepare]
      split
      · rfl
      · split
        · rfl
        · exact content_putStatement hm db _
  | setAutoCommit enabled =>
      simp only [call, switchAutoCommit]
      split <;> rfl
  | rollbackTo savepoint =>
      simp only [call, rollbackTo]
      split <;> rfl
  | bind | registerOut | addBatch | moreResults => exact content_putStatement hx db _
  | execute i => exact content_execute hx db
  | executeUpdate i => exact content_run hx db _
  | executeLargeUpdate i => exact content_run hx db _
  | executeBatch i => exact content_countBatch hx db
  | executeLargeBatch i => exact content_countBatch hx db
  | resultCursor i c =>
      simp only [call, openCursor]
      split
      · exact (content_putCursor hm _ _).trans (content_putStatement hx db _)
      · exact content_putStatement hx db _
  | generatedKeys i c =>
      simp only [call, openKeys]
      split
      · exact (content_putCursor hm _ _).trans (content_putStatement hx db _)
      · rfl
  | closeStatement i =>
      simp only [call, closeStatement]
      split
      · rfl
      · exact content_putStatement hx db _
  | next c =>
      simp only [call, next]
      split
      · rfl
      · exact content_putCursor hx db _
  | closeCursor c =>
      simp only [call, closeCursor]
      split
      · rfl
      · exact content_putCursor hx db _
  | _ => rfl

/-! ## Nothing else is touched -/

/-- What was given the name `x` is not part of what is open in `L`, and is as it was in `base`. -/
structure LeftAlone (x : Handle) (base : Memory) (L : List Holding) (s : Session Memory) :
    Prop where
  content : s.database.content x = base.content x
  named : x.UpTo s.statements s.cursors
  apart : x ∉ handlesOf L

namespace LeftAlone

variable {base : Memory} {L L' : List Holding} {s : Session Memory}

theorem call (h : LeftAlone x base L s) {c : Call} (hx : c.handle? ≠ some x)
    (hm : c.makes? ≠ some x) :
    LeftAlone x base L { s with database := (Memory.call c s.database).2 } :=
  ⟨(content_call s.database hx hm).trans h.content, h.named, h.apart⟩

/-- A call on what is open, as it is made. -/
theorem of_call (h : LeftAlone x base L s) {c : Call} {r : Except Failure c.Answer} {db : Memory}
    (hcall : driver.call c s.database = (r, db)) (hx : c.handle? ≠ some x)
    (hm : c.makes? ≠ some x) : LeftAlone x base L { s with database := db } := by
  have := h.call hx hm
  rwa [show Memory.call c s.database = (r, db) from hcall] at this

theorem handles (h : LeftAlone x base L s) (hL : ∀ y ∈ handlesOf L', y ∈ handlesOf L) :
    LeftAlone x base L' s :=
  ⟨h.content, h.named, fun hx => h.apart (hL x hx)⟩

theorem made_statement (h : LeftAlone x base L s) :
    LeftAlone x base (⟨⟨s.statements + 1⟩, none⟩ :: L)
      { s with statements := s.statements + 1 } := by
  refine ⟨h.content, h.named.mono (Nat.le_succ _) (Nat.le_refl _), fun hx => ?_⟩
  rcases List.mem_cons.mp hx with rfl | hx
  · exact Nat.not_succ_le_self _ h.named
  · exact h.apart hx

theorem made_cursor (h : LeftAlone x base (⟨i, none⟩ :: L) s) :
    LeftAlone x base (⟨i, some ⟨s.cursors + 1⟩⟩ :: L) { s with cursors := s.cursors + 1 } := by
  refine ⟨h.content, h.named.mono (Nat.le_refl _) (Nat.le_succ _), fun hx => ?_⟩
  rcases List.mem_cons.mp hx with rfl | hx
  · exact h.apart List.mem_cons_self
  · rcases List.mem_cons.mp hx with rfl | hx
    · exact Nat.not_succ_le_self _ h.named
    · exact h.apart (List.mem_cons_of_mem _ hx)

theorem not_statement {o : Option CursorId} (h : LeftAlone x base (⟨i, o⟩ :: L) s) :
    some (Handle.statement i) ≠ some x := by
  rintro ⟨⟩
  exact h.apart List.mem_cons_self

theorem not_cursor {c : CursorId} (h : LeftAlone x base (⟨i, some c⟩ :: L) s) :
    some (Handle.cursor c) ≠ some x := by
  rintro ⟨⟩
  exact h.apart (List.mem_cons_of_mem _ List.mem_cons_self)

theorem not_new_statement (h : LeftAlone x base L s) :
    some (Handle.statement ⟨s.statements + 1⟩) ≠ some x := by
  rintro ⟨⟩
  exact Nat.not_succ_le_self _ h.named

theorem not_new_cursor (h : LeftAlone x base L s) :
    some (Handle.cursor ⟨s.cursors + 1⟩) ≠ some x := by
  rintro ⟨⟩
  exact Nat.not_succ_le_self _ h.named

theorem custody (x : Handle) (base : Memory) : Custody driver (LeftAlone x base) where
  perm hL h := h.handles fun y hy => (hL.flatMap_right _).mem_iff.mpr hy
  log l h := ⟨h.content, h.named, h.apart⟩
  ask p L := driver.ask_triple fun s answer db hprobe h => by
    cases p <;> cases hprobe <;> exact h
  acquire L := Secures.of_run fun s h => h.call (c := .acquire) nofun nofun
  prepare sql kind keys L := by
    refine Driver.prepare_secures fun s₀ => driver.perform_secures ?_ ?_
    · rintro s u db hcall ⟨rfl, h⟩
      exact (h.of_call hcall nofun h.not_new_statement).made_statement
    · rintro s f db hcall ⟨rfl, h⟩
      exact h.of_call hcall nofun h.not_new_statement
  workStatement {c i} hc o L := Secures.of_run fun s h => by
    refine h.call (hc.1 ▸ h.not_statement) ?_
    rw [Call.makes?_of_movesHandles hc.2]
    exact nofun
  workCursor {c k} hc i L := Secures.of_run fun s h => by
    refine h.call (hc.1 ▸ h.not_cursor) ?_
    rw [Call.makes?_of_movesHandles hc.2]
    exact nofun
  openCursor i L := by
    refine Driver.openCursor_secures fun s₀ => driver.perform_secures ?_ ?_
    · rintro s opened db hcall ⟨rfl, h⟩
      have h := h.of_call hcall h.not_statement h.not_new_cursor
      cases opened with
      | true => exact h.made_cursor
      | false => exact h
    · rintro s f db hcall ⟨rfl, h⟩
      exact h.of_call hcall h.not_statement h.not_new_cursor
  openKeys i L := by
    refine Driver.openKeys_secures fun s₀ => driver.perform_secures ?_ ?_
    · rintro s u db hcall ⟨rfl, h⟩
      exact (h.of_call hcall h.not_statement h.not_new_cursor).made_cursor
    · rintro s f db hcall ⟨rfl, h⟩
      exact h.of_call hcall h.not_statement h.not_new_cursor
  closeCursor i k L := Secures.of_run fun s h => by
    refine (h.call (c := .closeCursor k) h.not_cursor nofun).handles fun y hy => ?_
    rcases List.mem_cons.mp hy with rfl | hy
    · exact List.mem_cons_self
    · exact List.mem_cons_of_mem _ (List.mem_cons_of_mem _ hy)
  closeStatement i L := Secures.of_run fun s h =>
    (h.call (c := .closeStatement i) h.not_statement nofun).handles fun y hy =>
      List.mem_cons_of_mem _ hy

theorem stewardship (x : Handle) (base : Memory) :
    Stewardship driver fun _ : Unit => LeftAlone x base := by
  refine (custody x base).stewardship fun L c hc => Secures.of_run fun s h => ?_
  obtain ⟨hhandle, hmoves⟩ := Call.handle?_of_isTransactional hc
  refine h.call ?_ ?_
  · rw [hhandle]
    exact nofun
  · rw [Call.makes?_of_movesHandles hmoves]
    exact nofun

end LeftAlone

/-! ## The same left to be fetched -/

/-- The statement is the same in both sessions, and so is the cursor that is open on it, whatever
its name. -/
def Reflects (i : StatementId) : Option CursorId → Option CursorId → Session Memory →
    Session Memory → Prop
  | some c, some c', s, s' => s'.database.statement i = s.database.statement i ∧
    s'.database.cursor c' = s.database.cursor c
  | none, none, s, s' => s'.database.statement i = s.database.statement i
  | _, _, _, _ => False

/-- The database once the set of rows at hand was taken from a statement. -/
def taken (db : Memory) (i : StatementId) : Memory :=
  db.putStatement i { db.statement i with results := (db.statement i).results.withoutCurrent }

theorem openCursor_none {s : Session Memory} (h : (s.database.statement i).results.current = none) :
    (driver.openCursor i).run s = (.ok none, { s with database := s.database.taken i }) := by
  have hcall (c : CursorId) : s.database.openCursor i c = (false, s.database.taken i) := by
    unfold Memory.openCursor
    dsimp only
    rw [h]
    rfl
  have hrun : (driver.perform (.resultCursor i ⟨s.cursors + 1⟩)).run s =
      (.ok false, { s with database := s.database.taken i }) := by
    refine Driver.perform_run ?_
    exact congrArg (fun r : Bool × Memory => (Except.ok r.1, r.2)) (hcall ⟨s.cursors + 1⟩)
  exact run_openCursor hrun

theorem openCursor_some {s : Session Memory} {set : ResultSet Value}
    (h : (s.database.statement i).results.current = some set) :
    (driver.openCursor i).run s = (.ok (some ⟨s.cursors + 1⟩), { s with
      database := (s.database.taken i).openSet ⟨s.cursors + 1⟩ set
      cursors := s.cursors + 1 }) := by
  have hcall (c : CursorId) :
      s.database.openCursor i c = (true, (s.database.taken i).openSet c set) := by
    unfold Memory.openCursor
    dsimp only
    rw [h]
    rfl
  have hrun : (driver.perform (.resultCursor i ⟨s.cursors + 1⟩)).run s = (.ok true,
      { s with database := (s.database.taken i).openSet ⟨s.cursors + 1⟩ set }) := by
    refine Driver.perform_run ?_
    exact congrArg (fun r : Bool × Memory => (Except.ok r.1, r.2)) (hcall ⟨s.cursors + 1⟩)
  exact run_openCursor hrun

theorem statement_putStatement_same (i : StatementId) (db db' : Memory)
    (statement : MemoryStatement) :
    (db.putStatement i statement).statement i = (db'.putStatement i statement).statement i := by
  rw [statement_putStatement, statement_putStatement, if_pos rfl, if_pos rfl]

namespace Reflects

variable {c c' : CursorId} {s s' : Session Memory}

theorem statement {o o' : Option CursorId} (h : Reflects i o o' s s') :
    s'.database.statement i = s.database.statement i := by
  cases o <;> cases o' <;> first | exact h | exact h.1 | exact h.elim

theorem of_content {o o' : Option CursorId} {s₁ : Session Memory} (h : Reflects i o o' s s')
    (hstatement : s₁.database.content (.statement i) = s.database.content (.statement i))
    (hcursor : ∀ c, o = some c → s₁.database.content (.cursor c) = s.database.content (.cursor c)) :
    Reflects i o o' s₁ s' := by
  have hi := h.statement.trans (Sum.inl.inj hstatement).symm
  cases o with
  | none => cases o' <;> first | exact hi | exact h.elim
  | some c =>
      cases o' with
      | none => exact h.elim
      | some c' => exact ⟨hi, h.2.trans (Sum.inr.inj (hcursor c rfl)).symm⟩

theorem put_cursor (h : s'.database.statement i = s.database.statement i)
    (cursor : CursorState Value) :
    Reflects i (some c) (some c') { s with database := s.database.putCursor c cursor }
      { s' with database := s'.database.putCursor c' cursor } := by
  refine ⟨h, ?_⟩
  change (s'.database.putCursor c' cursor).cursor c' = (s.database.putCursor c cursor).cursor c
  rw [cursor_putCursor, cursor_putCursor, if_pos rfl, if_pos rfl]

theorem taken (h : Reflects i none none s s') :
    Reflects i none none { s with database := s.database.taken i }
      { s' with database := s'.database.taken i } := by
  unfold Memory.taken
  rw [h.statement]
  exact statement_putStatement_same i _ _ _

theorem next (i : StatementId) (c c' : CursorId) :
    Abreast (Reflects i (some c) (some c')) (driver.perform (.next c)).run
      (driver.perform (.next c')).run (Same fun _ => Reflects i (some c) (some c')) := by
  rintro s s' ⟨hi, hc⟩
  change (s.database.next c).1 = (s'.database.next c').1 ∧ Reflects i (some c) (some c')
    { s with database := (s.database.next c).2 } { s' with database := (s'.database.next c').2 }
  unfold Memory.next
  rw [hc]
  dsimp only
  split
  · exact ⟨rfl, hi, hc⟩
  · exact ⟨rfl, put_cursor hi _⟩

theorem closeCursor (i : StatementId) (c c' : CursorId) :
    Abreast (Reflects i (some c) (some c')) (driver.perform (.closeCursor c)).run
      (driver.perform (.closeCursor c')).run (Same fun _ => Reflects i none none) := by
  rintro s s' ⟨hi, hc⟩
  refine ⟨rfl, ?_⟩
  change (s'.database.closeCursor c').statement i = (s.database.closeCursor c).statement i
  unfold Memory.closeCursor
  dsimp only
  split <;> split <;> exact hi

theorem moreResults (i : StatementId) :
    Abreast (Reflects i none none) (driver.perform (.moreResults i)).run
      (driver.perform (.moreResults i)).run (Same fun _ => Reflects i none none) := by
  intro s s' hi
  change (.ok (s.database.advance i).1 : Except Failure Bool) = .ok (s'.database.advance i).1 ∧
    (s'.database.advance i).2.statement i = (s.database.advance i).2.statement i
  unfold advance
  rw [hi.statement]
  exact ⟨rfl, statement_putStatement_same i _ _ _⟩

theorem closeStatement (i : StatementId) :
    Abreast (Reflects i none none) (driver.perform (.closeStatement i)).run
      (driver.perform (.closeStatement i)).run (Same fun _ => Reflects i none none) := by
  intro s s' hi
  refine ⟨rfl, ?_⟩
  change (s'.database.closeStatement i).statement i = (s.database.closeStatement i).statement i
  unfold Memory.closeStatement
  rw [hi.statement]
  dsimp only
  split
  · exact hi
  · exact statement_putStatement_same i s'.database s.database _

theorem openCursor (i : StatementId) :
    Abreast (Reflects i none none) (driver.openCursor i).run (driver.openCursor i).run
      (Mirror.Opened Reflects i) := by
  intro s s' hi
  cases hset : (s.database.statement i).results.current with
  | none =>
      rw [openCursor_none hset, openCursor_none (hi.statement ▸ hset)]
      exact hi.taken
  | some set =>
      rw [openCursor_some hset, openCursor_some (hi.statement ▸ hset)]
      exact put_cursor hi.taken _

theorem cell (i : StatementId) (c c' : CursorId) (r : CellRead) :
    Abreast (Reflects i (some c) (some c')) (driver.answerCell c r).run
      (driver.answerCell c' r).run (Same fun _ => Reflects i (some c) (some c')) := by
  rintro s s' ⟨hi, hc⟩
  have hobject (index : Nat) : s'.database.object c' index = s.database.object c index :=
    congrArg (CursorState.cell · index) hc
  cases r with
  | object index => exact ⟨(hobject index).symm, hi, hc⟩
  | binaryStream index => exact ⟨congrArg binaryStream (hobject index).symm, hi, hc⟩
  | characterStream index => exact ⟨congrArg characterStream (hobject index).symm, hi, hc⟩

end Reflects

theorem reflects_mirrored : Mirrored driver Reflects where
  shape {i o o' s s'} h := by
    cases o <;> cases o' <;> first | rfl | exact h.elim
  log i o o' s s' l l' h := by
    cases o <;> cases o' <;> exact h
  next := Reflects.next
  columns i c c' := by
    rintro s s' ⟨hi, hc⟩
    refine ⟨?_, hi, hc⟩
    exact congrArg (fun cursor : CursorState Value => Except.ok cursor.columns) hc.symm
  cell := Reflects.cell
  closeCursor := Reflects.closeCursor
  moreResults := Reflects.moreResults
  openCursor := Reflects.openCursor
  outValue i r := by
    intro s s' hi
    refine ⟨?_, hi⟩
    change s.database.outValue i r.position r.type = s'.database.outValue i r.position r.type
    unfold outValue
    rw [hi.statement]
  closeStatement := Reflects.closeStatement

/-! ## What clients see -/

open Client

variable {α : Type} {k : Nat} {client client' : Client Memory α} {step : Step Memory α}

/-- What is open in a session, named and counted as it should be. -/
def Kept (base : Memory) : List Holding → Session Memory → Prop :=
  Tallied fun n m L t => Afloat base n m L t ∧ Counted n m L t

theorem kept_stewardship (base : Memory) : Stewardship driver fun _ : Unit => Kept base :=
  (tallied_custody (Counted.follows base)).stewardship fun L _ hc =>
    tallied_work (Call.handle?_of_isTransactional hc).2 L

/-- A step beside a cursor leaves alone what the cursor owns. -/
theorem content_beside {base : Memory} {a : ResultCursor α}
    (hclient : Keeping (Kept base) id [] client) (ha : client.cursors.get? k = some a)
    (hs : step.isLibrary = true) (hn : step.cursor? ≠ some k) (hk : step.keeps? ≠ some k)
    (hx : x ∈ handlesOf a.holdings) :
    (client.step driver step).2.session.database.content x = client.session.database.content x := by
  have hall : (handlesOf client.cursors.holdings).Perm
      (handlesOf a.holdings ++ handlesOf (client.cursors.remove k).holdings) := by
    rw [← handlesOf_append]
    exact (Registry.holdings_of_get? ha).flatMap_right _
  have hfloat := hclient.open_.1
  have halone : Keeping (LeftAlone x client.session.database) id [] (client.without k) := by
    refine ⟨hclient.guards, Registry.nodup_remove hclient.keys k, fun e he => ?_, rfl, ?_, ?_⟩
    · exact hclient.sound e ((Registry.perm_of_get? ha).mem_iff.mpr (List.mem_cons_of_mem _ he))
    · exact hfloat.named x (hall.mem_iff.mpr (List.mem_append_left _ hx))
    · exact fun hr => (List.nodup_append.mp (hall.nodup_iff.mp hfloat.nodup)).2.2 x hx x hr rfl
  have hafter := ((LeftAlone.stewardship x client.session.database).takeStep () hs).run _ halone
  have hcontent : ((client.without k).step driver step).2.session.database.content x = _ :=
    hafter.open_.content
  rwa [(step_without hs hn hk client).2] at hcontent

theorem faced_step {base : Memory} (hclient : Keeping (Kept base) id [] client)
    (hfaced : Faced Reflects k client client') (hs : step.isLibrary = true)
    (hn : step.cursor? ≠ some k) (hk : step.keeps? ≠ some k) :
    Faced Reflects k (client.step driver step).2 client' := by
  obtain ⟨o, o', hfacing⟩ := hfaced
  have hget := (step_without (d := driver) hs hn hk client).1.trans hfacing.left
  have hafter := ((kept_stewardship base).takeStep () hs).run client hclient
  refine ⟨o, o', hget, hfacing.right, hafter.keys, hfacing.keys', ?_, [],
    (List.append_nil _).symm, (List.append_nil _).symm⟩
  refine hfacing.sessions.imp fun a i c' ha hi hreflects => ?_
  have halone {x : Handle} (hx : x ∈ handlesOf [⟨i, a.current⟩]) :=
    content_beside hclient (hfacing.left.trans ha) hs hn hk
      (ResultCursor.holdings_of_some hi rfl ▸ hx)
  refine hreflects.of_content (halone List.mem_cons_self) fun c hc => halone ?_
  rw [hc]
  exact List.mem_cons_of_mem _ List.mem_cons_self

theorem reflects_refl (i : StatementId) (o : Option CursorId) (s : Session Memory) :
    Reflects i o o s s := by
  cases o with
  | none => exact rfl
  | some c => exact ⟨rfl, rfl⟩

theorem faced_refl {base : Memory} (hclient : Keeping (Kept base) id [] client) (k : Nat) :
    Faced Reflects k client client := by
  refine ⟨_, _, rfl, rfl, hclient.keys, hclient.keys, ?_, [], (List.append_nil _).symm,
    (List.append_nil _).symm⟩
  cases ha : client.cursors.get? k with
  | none => exact trivial
  | some a =>
      have hsound : a.Sound :=
        hclient.sound _ ((Registry.perm_of_get? ha).mem_iff.mpr List.mem_cons_self)
      obtain hspent | ⟨i, hi⟩ := hsound
      · exact .inl ⟨rfl, hspent⟩
      · exact .inr ⟨i, hi, rfl, reflects_refl i a.current client.session⟩

/-- What the database counts as open is what was made in the session and not closed. -/
def Accounted (s : Session Memory) : Prop :=
  s.database.openStatements =
      (List.range' 1 s.statements).countP (fun j => !(s.database.statement ⟨j⟩).closed) ∧
    s.database.openCursors =
      (List.range' 1 s.cursors).countP fun j => !(s.database.cursor ⟨j⟩).closed

theorem keeping_unused {db : Memory} (hs : db.openStatements = 0) (hc : db.openCursors = 0)
    (g : Gateway) :
    Keeping (Kept db) id []
      ({ session := { database := db }, gateway := g } : Client Memory α) where
  guards := rfl
  keys := List.nodup_nil
  sound := nofun
  open_ := ⟨⟨rfl, rfl, nofun, nofun, List.nodup_nil⟩, hs, hc, nofun⟩

/-- On a database on which nothing is open a client may execute what it wants and keep any number
of result cursors. What it sees of the one under `k` from then on, row by row, with what the handler
for output values gives and in which step, is what it would see if it did nothing but what it does
with this one; and after all of it the database counts as open what was made and not closed. -/
theorem cursors_apart {db : Memory} (hs : db.openStatements = 0) (hc : db.openCursors = 0)
    (g : Gateway) {before later : List (Step Memory α)}
    (hbefore : ∀ step ∈ before, step.isLibrary = true)
    (hlater : ∀ step ∈ later, step.isLibrary = true) {k : Nat}
    (hk : ∀ step ∈ later, step.keeps? ≠ some k) :
    let client := Client.after driver { session := { database := db }, gateway := g } before
    client.sights driver k later =
        client.sights driver k (later.filter fun step => step.cursor? = some k) ∧
      Accounted (client.after driver later).session := by
  intro client
  have hclient := (kept_stewardship db).after () hbefore (keeping_unused (α := α) hs hc g)
  refine ⟨?_, ((kept_stewardship db).after () hlater hclient).open_.2.statements,
    ((kept_stewardship db).after () hlater hclient).open_.2.cursors⟩
  refine sights_filter reflects_mirrored
    (A := fun step => step.isLibrary = true ∧ step.keeps? ≠ some k) ?_ ?_
    (fun step hmem => ⟨hlater step hmem, hk step hmem⟩) hclient (faced_refl hclient k)
  · exact fun step hstep client hclient =>
      ((kept_stewardship db).takeStep () hstep.1).run client hclient
  · exact fun step hstep hn client client' hclient hfaced =>
      faced_step hclient hfaced hstep.1 hn hstep.2

/-- The second row is delivered after the table has been emptied, and with another cursor open. -/
theorem cursors_apart_of_two :
    let table : Table := { rows := [[.int 1, .text "a"], [.int 2, .text "a"]], nextId := 3 }
    let db := (({ table } : Memory).define "SELECT" Procedure.select).define "DELETE"
      Procedure.delete
    let open_ (n : Nat) : Step Memory Value :=
      .operation (.select "SELECT" .none {} (.fetch (.keep n)))
    let next (n : Nat) : Step Memory Value := .operation (.next n [(·.get 2)])
    let later : List (Step Memory Value) :=
      [open_ 1, next 0, next 1, .update ⟨"DELETE", [[.text "a"]], {}⟩, next 0,
        .operation (.close 1), next 0]
    let client := Client.after driver { session := { database := db } } [open_ 0]
    client.sights driver 0 later = client.sights driver 0 [next 0, next 0, next 0] ∧
      Accounted (client.after driver later).session ∧
      (client.sights driver 0 later).map (fun sight => sight.reply matches .ok (.row (some _))) =
        [true, true, false] := by
  intro table db open_ next later client
  have hbefore : [open_ 0].all (·.isLibrary) = true := rfl
  have hlater : later.all (·.isLibrary) = true := rfl
  have hk : later.all (fun step => decide (step.keeps? ≠ some 0)) = true := rfl
  have hunused : db.openStatements = 0 := rfl
  obtain ⟨hsights, haccounted⟩ := cursors_apart hunused rfl {} (List.all_eq_true.mp hbefore)
    (List.all_eq_true.mp hlater) fun step hmem =>
      of_decide_eq_true (List.all_eq_true.mp hk step hmem)
  refine ⟨hsights, haccounted, ?_⟩
  decide +kernel

end Database.Memory

end SqlGateway
