import Mathlib.Control.Monad.Basic
import SqlGateway.Proofs.Custody.Client
import SqlGateway.Proofs.Memory.Atomicity
import SqlGateway.Proofs.Settings.Databases

/-!
# Transactions within transactions

The action of a transaction may run transactions of its own, and these may run further ones. There
is one connection for all of them, and a commit is a commit of everything: it drops all savepoints,
those of the transactions around it among them. So a transaction that fails is undone if nothing was
committed in between, and else is not.
-/

namespace SqlGateway.Database.Memory

/-! ## Actions -/

/-- Where an action can bring a session. It makes calls, of those about transactions only such as
are allowed to it, and runs transactions of other actions; or something happens to the database from
outside. -/
inductive Course (allowed : Call → Prop) : Session Memory → Session Memory → Prop
  | aside {s t : Session Memory} : t.database = s.database → Course allowed s t
  | call (c : Call) (s : Session Memory) : (c.isTransactional = true → allowed c) →
      Course allowed s ((driver.perform c).run s).2
  | define (sql : String) (procedure : Procedure) (s : Session Memory) :
      Course allowed s { s with database := s.database.define sql procedure }
  | disconnect (s : Session Memory) : Course allowed s { s with database := s.database.disconnect }
  | setBatch (batch : Bool) (s : Session Memory) :
      Course allowed s { s with database := s.database.setBatch batch }
  | transaction {α : Type} (wanted : Option IsolationLevel) {action : Act Memory Error α} :
      (∀ s, Course allowed s (action.run s).2) → (s : Session Memory) →
        Course allowed s ((driver.inTransaction wanted action).run s).2
  | trans {s t u : Session Memory} : Course allowed s t → Course allowed t u → Course allowed s u

/-- All that the library does is a course that is free of calls about transactions. -/
theorem course_stewardship (allowed : Call → Prop) :
    Stewardship driver fun (s : Session Memory) (_ : List Holding) => Course allowed s where
  custody s := Custody.of_calls (fun _ _ h => h.trans (.aside rfl))
    (fun _ _ _ h => h.trans (.aside rfl))
    (fun p => driver.ask_triple fun t answer db hprobe h => h.trans (.aside (by
      cases p <;> cases hprobe <;> rfl)))
    fun c hc => Secures.of_run fun t h => h.trans (.call c t fun ht => by simp [hc] at ht)
  transaction wanted h s L := Secures.of_run fun t ht =>
    ht.trans (.transaction wanted (fun u => (h u L).run u (.aside rfl)) t)

/-! ## What is kept for the transactions around an action -/

variable {allowed : Call → Prop} {before db db' after : Memory} {p : Savepoint}
  {c : Option IsolationLevel} {α : Type}

/-- The copies that were kept before are kept, as long as nothing is committed. -/
structure Passes (allowed : Call → Prop) (before after : Memory) : Prop where
  switchable : after.refuseAutoCommit = false
  made : before.savepointsMade ≤ after.savepointsMade
  commits : before.commits ≤ after.commits
  copies : ¬ allowed (.setAutoCommit true) → before.autoCommit = false →
    after.commits = before.commits → ∀ p : Savepoint, p.id ≤ before.savepointsMade →
      ¬ allowed (.releaseSavepoint p) → after.savepoints.lookup p = before.savepoints.lookup p

namespace Passes

theorem refl (h : before.refuseAutoCommit = false) : Passes allowed before before where
  switchable := h
  made := Nat.le_refl _
  commits := Nat.le_refl _
  copies _ _ _ _ _ _ := rfl

theorem trans (h : Passes allowed before db)
    (hmanual : ¬ allowed (.setAutoCommit true) → before.autoCommit = false → db.autoCommit = false)
    (h' : Passes allowed db after) : Passes allowed before after where
  switchable := h'.switchable
  made := Nat.le_trans h.made h'.made
  commits := Nat.le_trans h.commits h'.commits
  copies hquiet hoff hcommits p hp hkept := by
    have hdb : db.commits = before.commits := Nat.le_antisymm (hcommits ▸ h'.commits) h.commits
    have hlater := h'.copies hquiet (hmanual hquiet hoff) (hcommits.trans hdb.symm) p
      (Nat.le_trans hp h.made) hkept
    exact hlater.trans (h.copies hquiet hoff hdb p hp hkept)

theorem of_lookup (h : Passes allowed before db)
    (hrefuse : db'.refuseAutoCommit = db.refuseAutoCommit)
    (hmade : db'.savepointsMade = db.savepointsMade) (hcommits : db'.commits = db.commits)
    (hlookup : before.autoCommit = false → ∀ p : Savepoint, p.id ≤ before.savepointsMade →
      db'.savepoints.lookup p = db.savepoints.lookup p) : Passes allowed before db' where
  switchable := hrefuse.trans h.switchable
  made := Nat.le_trans h.made (Nat.le_of_eq hmade.symm)
  commits := Nat.le_trans h.commits (Nat.le_of_eq hcommits.symm)
  copies hquiet hoff hsame p hp hkept :=
    (hlookup hoff p hp).trans (h.copies hquiet hoff (hcommits.symm.trans hsame) p hp hkept)

theorem of_surroundings (h : Passes allowed before db)
    (hkept : db'.surroundings = db.surroundings) : Passes allowed before db' :=
  h.of_lookup (congrArg Surroundings.refuseAutoCommit hkept)
    (congrArg Surroundings.savepointsMade hkept) (congrArg Surroundings.commits hkept)
    fun _ p _ => congrArg (fun t : Surroundings => t.savepoints.lookup p) hkept

theorem isolation (h : Passes allowed before db) (level : IsolationLevel) :
    Passes allowed before { db.record (.isolation level) with isolation := level } :=
  h.of_lookup rfl rfl (commits_record (e := .isolation level) db (by simp)) fun _ _ _ => rfl

end Passes

theorem switchAutoCommit_of_switchable (h : db.refuseAutoCommit = false) (enabled : Bool) :
    db.switchAutoCommit enabled = (.ok (), { db.record (.autoCommit enabled) with
      savepoints := if enabled && !db.autoCommit then [] else db.savepoints
      autoCommit := enabled }) := by
  unfold switchAutoCommit
  dsimp only
  rw [if_neg (by simp [record, h])]
  rfl

theorem lookup_release {p q : Savepoint} (h : q ≠ p) (points : List (Savepoint × Table)) :
    (points.filter (·.1 != p)).lookup q = points.lookup q := by
  induction points with
  | nil => rfl
  | cons point points ih =>
      rw [List.filter_cons]
      split
      · rw [List.lookup_cons, List.lookup_cons, ih]
      · rename_i hpoint
        have hne : q ≠ point.1 := by
          rintro rfl
          simp [h] at hpoint
        rw [ih, List.lookup_cons, beq_false_of_ne hne]

theorem lookup_setSavepoint_of_le {q : Savepoint} (h : q.id ≤ db.savepointsMade) :
    db.setSavepoint.2.savepoints.lookup q = db.savepoints.lookup q := by
  have hne : q ≠ db.setSavepoint.1 := by
    rintro rfl
    exact Nat.not_succ_le_self _ h
  change (db.savepoints ++ [(db.setSavepoint.1, db.table)]).lookup q = _
  rw [List.lookup_append, List.lookup_cons, beq_false_of_ne hne, List.lookup_nil, Option.or_none]

theorem surroundings_rollbackTo (db : Memory) (p : Savepoint) :
    (db.rollbackTo p).2.surroundings = db.surroundings := by
  unfold rollbackTo
  split
  · exact surroundings_record (e := .rollback p.name) db (by simp)
  · rfl

/-- Copies are dropped where savepoints are released, auto-commit is switched on or something is
committed. -/
theorem passes_call (hs : db.refuseAutoCommit = false) (call : Call)
    (hon : call = .setAutoCommit true → allowed call)
    (hrelease : ∀ p, call = .releaseSavepoint p → allowed call) :
    Passes allowed db (Memory.call call db).2 := by
  cases ht : call.isTransactional with
  | false => exact (Passes.refl hs).of_surroundings (surroundings_call db ht)
  | true =>
      cases call with
      | autoCommit | isolation => exact .refl hs
      | setAutoCommit enabled =>
          have hcommits := commits_record (e := .autoCommit enabled) db (by simp)
          simp only [Memory.call, switchAutoCommit_of_switchable hs]
          refine ⟨hs, Nat.le_refl _, Nat.le_of_eq hcommits.symm, fun hquiet _ _ p _ _ => ?_⟩
          cases enabled with
          | true => exact absurd (hon rfl) hquiet
          | false => rfl
      | setIsolation level => exact (Passes.refl hs).isolation level
      | setSavepoint =>
          have hcommits := commits_record (e := .savepoint db.setSavepoint.1.name) db (by simp)
          exact ⟨hs, Nat.le_succ _, Nat.le_of_eq hcommits.symm,
            fun _ _ _ p hp _ => lookup_setSavepoint_of_le hp⟩
      | rollbackTo p => exact (Passes.refl hs).of_surroundings (surroundings_rollbackTo db p)
      | releaseSavepoint p =>
          have hcommits := commits_record (e := .release p.name) db (by simp)
          refine ⟨hs, Nat.le_refl _, Nat.le_of_eq hcommits.symm, fun _ _ _ q _ hkept => ?_⟩
          have hne : q ≠ p := by
            rintro rfl
            exact hkept (hrelease q rfl)
          exact lookup_release hne db.savepoints
      | commit =>
          have hcommits := commits_commit db
          refine ⟨hs, Nat.le_refl _, Nat.le_trans (Nat.le_succ _) (Nat.le_of_eq hcommits.symm),
            fun _ _ hsame _ _ _ => ?_⟩
          exact absurd (hcommits.symm.trans hsame) (Nat.succ_ne_self _)
      | _ => cases ht

/-- So are the settings, unless a call that is allowed to the action changes them. -/
structure Stays (allowed : Call → Prop) (before after : Memory) : Prop
    extends Passes allowed before after where
  manual : ¬ allowed (.setAutoCommit true) → before.autoCommit = false → after.autoCommit = false
  isolation : (∀ level, ¬ allowed (.setIsolation level)) → after.isolation = before.isolation

namespace Stays

theorem of_stored (h : Passes allowed before after) (hstored : after.stored = before.stored) :
    Stays allowed before after where
  toPasses := h
  manual _ hoff := (congrArg Stored.autoCommit hstored).trans hoff
  isolation _ := congrArg Stored.isolation hstored

theorem trans (h : Stays allowed before db) (h' : Stays allowed db after) :
    Stays allowed before after where
  toPasses := h.toPasses.trans h.manual h'.toPasses
  manual hquiet hoff := h'.manual hquiet (h.manual hquiet hoff)
  isolation hlevel := (h'.isolation hlevel).trans (h.isolation hlevel)

end Stays

theorem stays_call (hs : db.refuseAutoCommit = false) (call : Call)
    (hcall : call.isTransactional = true → allowed call) :
    Stays allowed db (Memory.call call db).2 := by
  have hpasses : Passes allowed db (Memory.call call db).2 :=
    passes_call hs call (fun h => hcall (h ▸ rfl)) fun p h => hcall (h ▸ rfl)
  cases hset : call.setsStored with
  | false => exact .of_stored hpasses (stored_call db hset)
  | true =>
      refine ⟨hpasses, ?_, ?_⟩
      all_goals cases call with
        | setAutoCommit enabled => ?_
        | setIsolation level => ?_
        | _ => cases hset
      all_goals simp only [Memory.call, switchAutoCommit_of_switchable hs]
      · intro hquiet _
        cases enabled with
        | true => exact absurd (hcall rfl) hquiet
        | false => rfl
      · exact fun _ hoff => hoff
      · exact fun _ => rfl
      · exact fun hlevel => absurd (hcall rfl) (hlevel level)

/-! ## Between the calls of a transaction -/

/-- A transaction that began at `before` is under way, and `c` is the isolation level to go back to,
if it was changed. -/
structure Inside (allowed : Call → Prop) (before : Memory) (c : Option IsolationLevel)
    (db : Memory) :
    Prop extends Passes allowed before db where
  level : (∀ level, ¬ allowed (.setIsolation level)) → c.getD db.isolation = before.isolation
  marked : before.setSavepoint.1.id ≤ db.savepointsMade

/-- Nothing was done that ends the savepoint of the transaction. -/
def Spared (allowed : Call → Prop) (before db : Memory) : Prop :=
  before.Numbered ∧ ¬ allowed (.setAutoCommit true) ∧
    ¬ allowed (.releaseSavepoint before.setSavepoint.1) ∧ db.commits = before.commits

/-- The savepoint of the transaction still has the copy. -/
def Copied (allowed : Call → Prop) (before db : Memory) : Prop :=
  Spared allowed before db →
    db.savepoints.lookup before.setSavepoint.1 = some before.table

/-- The table is again the one from before the transaction. -/
def Undone (allowed : Call → Prop) (before db : Memory) : Prop :=
  Spared allowed before db → db.table = before.table

/-- Where a transaction begins, with auto-commit off and a savepoint. -/
def begun (before : Memory) : Memory :=
  (before.switchAutoCommit false).2.setSavepoint.2

theorem begun_inside (hs : before.refuseAutoCommit = false) :
    Inside allowed before none before.begun ∧ Copied allowed before before.begun ∧
      before.begun.autoCommit = false := by
  have hoff : Passes allowed before (before.switchAutoCommit false).2 :=
    passes_call hs (.setAutoCommit false) nofun nofun
  have hpasses : Passes allowed before before.begun :=
    hoff.trans (fun _ _ => by rw [switchAutoCommit_of_switchable hs])
      (passes_call hoff.switchable .setSavepoint nofun nofun)
  unfold begun at hpasses ⊢
  rw [switchAutoCommit_of_switchable hs] at hpasses ⊢
  refine ⟨⟨hpasses, fun _ => rfl, Nat.le_refl _⟩, fun hspared => ?_, rfl⟩
  exact hspared.1.lookup_setSavepoint

theorem Inside.later (h : Inside allowed before c db) (hcopy : Copied allowed before db)
    (hoff : db.autoCommit = false) (h' : Stays allowed db db') :
    Inside allowed before c db' ∧ Copied allowed before db' := by
  have hpasses := h.toPasses.trans (fun _ _ => hoff) h'.toPasses
  refine ⟨⟨hpasses, fun hlevel => ?_, Nat.le_trans h.marked h'.made⟩, fun hspared => ?_⟩
  · rw [h'.isolation hlevel]
    exact h.level hlevel
  · obtain ⟨hnumbered, hquiet, hkept, hcommits⟩ := hspared
    have hdb : db.commits = before.commits := Nat.le_antisymm (hcommits ▸ h'.commits) h.commits
    have hlater := h'.copies hquiet hoff (hcommits.trans hdb.symm) _ h.marked hkept
    exact hlater.trans (hcopy ⟨hnumbered, hquiet, hkept, hdb⟩)

theorem Inside.changeIsolation (h : Inside allowed before none db)
    (hcopy : Copied allowed before db)
    (level : IsolationLevel) :
    Inside allowed before (some before.isolation)
        { db.record (.isolation level) with isolation := level } ∧
      Copied allowed before { db.record (.isolation level) with isolation := level } := by
  have hcommits := commits_record (e := .isolation level) db (by simp)
  refine ⟨⟨h.toPasses.isolation level, fun _ => rfl, h.marked⟩, ?_⟩
  rintro ⟨hnumbered, hquiet, hrelease, hsame⟩
  exact hcopy ⟨hnumbered, hquiet, hrelease, hcommits.symm.trans hsame⟩

/-! ### The way out -/

theorem Inside.of_surroundings (h : Inside allowed before c db)
    (hkept : db'.surroundings = db.surroundings) : Inside allowed before c db' where
  toPasses := h.toPasses.of_surroundings hkept
  level hlevel := by
    rw [show db'.isolation = db.isolation from congrArg (fun t => t.stored.isolation) hkept]
    exact h.level hlevel
  marked := Nat.le_trans h.marked (Nat.le_of_eq (congrArg Surroundings.savepointsMade hkept).symm)

theorem Undone.same (h : Undone allowed before db) (htable : db'.table = db.table)
    (hcommits : db'.commits = db.commits) : Undone allowed before db' :=
  fun ⟨hnumbered, hquiet, hkept, hsame⟩ =>
    htable.trans (h ⟨hnumbered, hquiet, hkept, hcommits.symm.trans hsame⟩)

theorem Inside.rollback (h : Inside allowed before c db) (hcopy : Copied allowed before db) :
    Inside allowed before c (db.rollbackTo before.setSavepoint.1).2 ∧
      Undone allowed before (db.rollbackTo before.setSavepoint.1).2 := by
  have hkept := surroundings_rollbackTo db before.setSavepoint.1
  refine ⟨h.of_surroundings hkept, fun ⟨hnumbered, hquiet, hrelease, hsame⟩ => ?_⟩
  have hcommits := congrArg Surroundings.commits hkept
  have hfound := hcopy ⟨hnumbered, hquiet, hrelease, hcommits.symm.trans hsame⟩
  unfold rollbackTo
  rw [hfound]

theorem Inside.release (h : Inside allowed before c db) (hundone : Undone allowed before db) :
    Inside allowed before c (db.release before.setSavepoint.1) ∧
      Undone allowed before (db.release before.setSavepoint.1) := by
  have hcommits : (db.release before.setSavepoint.1).commits = db.commits :=
    commits_record (e := .release before.setSavepoint.1.name) db (by simp)
  refine ⟨⟨h.toPasses.of_lookup rfl rfl hcommits fun _ p hp => ?_, h.level, h.marked⟩,
    hundone.same rfl hcommits⟩
  have hne : p ≠ before.setSavepoint.1 := by
    rintro rfl
    exact Nat.not_succ_le_self _ hp
  exact lookup_release hne db.savepoints

/-- A commit drops the copy, and nobody relies on it any more. -/
theorem Inside.commit (h : Inside allowed before c db) :
    Inside allowed before c db.commit ∧ Undone allowed before db.commit := by
  have hcommits := commits_commit db
  have hlt : before.commits < db.commit.commits := hcommits.symm ▸ Nat.lt_succ_of_le h.commits
  exact ⟨{
    switchable := h.switchable
    made := h.made
    commits := Nat.le_of_lt hlt
    copies := fun _ _ hsame => absurd hsame (Nat.ne_of_gt hlt)
    level := h.level
    marked := h.marked }, fun hspared => absurd hspared.2.2.2 (Nat.ne_of_gt hlt)⟩

theorem Inside.putAutoCommit (h : Inside allowed before c db) (hundone : Undone allowed before db) :
    Inside allowed before c (db.switchAutoCommit before.autoCommit).2 ∧
      Undone allowed before (db.switchAutoCommit before.autoCommit).2 ∧
      (db.switchAutoCommit before.autoCommit).2.autoCommit = before.autoCommit := by
  rw [switchAutoCommit_of_switchable h.switchable]
  have hcommits := commits_record (e := .autoCommit before.autoCommit) db (by simp)
  refine ⟨⟨h.toPasses.of_lookup rfl rfl hcommits fun hoff p _ => ?_, h.level, h.marked⟩,
    hundone.same rfl hcommits, rfl⟩
  simp [hoff]

/-- A transaction is over. -/
structure Left (allowed : Call → Prop) (before after : Memory) : Prop
    extends Stays allowed before after where
  autoCommit : after.autoCommit = before.autoCommit
  undone : Undone allowed before after

theorem Inside.left (h : Inside allowed before none db) (hundone : Undone allowed before db)
    (hauto : db.autoCommit = before.autoCommit) : Left allowed before db where
  toPasses := h.toPasses
  manual _ hoff := hauto.trans hoff
  isolation hlevel := h.level hlevel
  autoCommit := hauto
  undone := hundone

theorem Inside.putIsolation {level : IsolationLevel} (h : Inside allowed before (some level) db)
    (hundone : Undone allowed before db) (hauto : db.autoCommit = before.autoCommit) :
    Left allowed before { db.record (.isolation level) with isolation := level } := by
  have hcommits := commits_record (e := .isolation level) db (by simp)
  exact Inside.left ⟨h.toPasses.isolation level, h.level, h.marked⟩
    (hundone.same rfl hcommits) hauto

/-! ## Runs -/

theorem putAutoCommit_secures :
    Secures (fun s => Inside allowed before c s.database ∧ Undone allowed before s.database)
      (driver.perform (.setAutoCommit before.autoCommit))
      (fun _ s => Inside allowed before c s.database ∧ Undone allowed before s.database ∧
        s.database.autoCommit = before.autoCommit) fun _ => False := by
  refine driver.perform_secures ?_ ?_
  · rintro s u db hcall ⟨hinside, hundone⟩
    have hput := hinside.putAutoCommit hundone
    rwa [show s.database.switchAutoCommit before.autoCommit = (.ok u, db) from hcall] at hput
  · rintro s f db hcall ⟨hinside, -⟩
    cases (switched hcall hinside.switchable).1

theorem putIsolation_secures {level : IsolationLevel} (hc : c = some level) :
    Secures (fun s => Inside allowed before c s.database ∧ Undone allowed before s.database ∧
        s.database.autoCommit = before.autoCommit)
      (driver.perform (.setIsolation level)) (fun _ s => Left allowed before s.database)
      fun _ => False := by
  subst hc
  refine driver.perform_secures ?_ ?_
  · rintro s u db hcall ⟨hinside, hundone, hauto⟩
    cases hcall
    exact hinside.putIsolation hundone hauto
  · rintro s f db hcall -
    cases hcall

theorem left_restore :
    Triple (fun s => Inside allowed before c s.database ∧ Undone allowed before s.database)
      (driver.restore before.autoCommit c) fun _ s => Left allowed before s.database := by
  refine Driver.restore_triple (fun _ _ hs => hs) (fun _ _ hs => hs)
    (Secures.weaken putAutoCommit_secures (fun _ _ hs => hs) fun _ hs => hs.elim)
    (fun level hc => Secures.weaken (putIsolation_secures hc) (fun _ _ hs => hs)
      fun _ hs => hs.elim) ?_
  rintro rfl s ⟨hinside, hundone, hauto⟩
  exact hinside.left hundone hauto

theorem left_putBack (v : α) :
    Secures (fun s => Inside allowed before c s.database ∧ Undone allowed before s.database)
      (driver.putBack before.autoCommit c v) (fun _ s => Left allowed before s.database)
      fun _ => False := by
  refine Secures.weaken (Driver.putBack_secures
    (M := fun ok s => ok = true ∧ Inside allowed before c s.database ∧
      Undone allowed before s.database ∧ s.database.autoCommit = before.autoCommit)
    (R := fun ok s => ok = true ∧ Left allowed before s.database)
    (Secures.weaken putAutoCommit_secures (fun _ _ hs => ⟨rfl, hs⟩) fun _ hs => hs.elim)
    (fun level hc ok => Secures.assuming fun hok => Secures.weaken (putIsolation_secures hc)
      (fun _ _ hs => ⟨hok, hs⟩) fun _ hs => hs.elim)
    ?_) (fun _ _ hs => hs.2) fun _ hs => nomatch hs.1
  rintro rfl ok s ⟨hok, hinside, hundone, hauto⟩
  exact ⟨hok, hinside.left hundone hauto⟩

theorem left_abort (hp : p = before.setSavepoint.1) :
    Triple (fun s => Inside allowed before c s.database ∧ Copied allowed before s.database)
      (driver.abort p before.autoCommit c) fun _ s => Left allowed before s.database := by
  subst hp
  refine Triple.bind (Q := fun _ s => Inside allowed before c s.database ∧
    Undone allowed before s.database) ?_ fun _ => Triple.bind (Q := fun _ s =>
      Inside allowed before c s.database ∧ Undone allowed before s.database) ?_
        fun _ => left_restore
  · exact Secures.orWarn (fun _ _ hs => hs) (Secures.of_run fun s hs => hs.1.rollback hs.2)
  · exact Secures.orWarn (fun _ _ hs => hs) (Secures.of_run fun s hs => hs.1.release hs.2)

/-- What holds between the calls of a transaction, whatever its action is. -/
def nestingOutline (hs : before.refuseAutoCommit = false) (wanted : Option IsolationLevel)
    {action : Act Memory Error α}
    (haction : ∀ s : Session Memory, s.database.refuseAutoCommit = false →
      Stays allowed s.database (action.run s).2.database) :
    Outline driver wanted action (fun s => s.database = before)
      (fun _ s => Left allowed before s.database) fun s => Left allowed before s.database where
  asked a s := s.database = before ∧ a = before.autoCommit
  known a b s := s.database = before ∧ a = before.autoCommit ∧ b = before.isolation
  manual a b s := s.database = (before.switchAutoCommit false).2 ∧ a = before.autoCommit ∧
    b = before.isolation
  unmarked _ _ _ := False
  marked a b p s := s.database = before.begun ∧ a = before.autoCommit ∧ b = before.isolation ∧
    p = before.setSavepoint.1
  ready a _ p c s := (Inside allowed before c s.database ∧ Copied allowed before s.database ∧
    s.database.autoCommit = false) ∧ a = before.autoCommit ∧ p = before.setSavepoint.1
  worked a _ p c _ s := (Inside allowed before c s.database ∧ Copied allowed before s.database) ∧
    a = before.autoCommit ∧ p = before.setSavepoint.1
  failing a _ p c s := (Inside allowed before c s.database ∧ Copied allowed before s.database) ∧
    a = before.autoCommit ∧ p = before.setSavepoint.1
  committed a _ c _ s := (Inside allowed before c s.database ∧ Undone allowed before s.database) ∧
    a = before.autoCommit
  autoCommit := by
    refine driver.perform_secures ?_ ?_
    · rintro s answer db hcall rfl
      cases hcall
      exact ⟨rfl, rfl⟩
    · rintro s f db hcall -
      cases hcall
  isolation a := by
    refine driver.perform_secures ?_ ?_
    · rintro s answer db hcall ⟨rfl, ha⟩
      cases hcall
      exact ⟨rfl, ha, rfl⟩
    · rintro s f db hcall -
      cases hcall
  setAutoCommit a b := by
    refine driver.perform_secures ?_ ?_
    · rintro s u db hcall ⟨rfl, ha, hb⟩
      exact ⟨(congrArg Prod.snd hcall).symm, ha, hb⟩
    · rintro s f db hcall ⟨rfl, -⟩
      cases (switched hcall hs).1
  setSavepoint a b := by
    refine driver.perform_secures ?_ ?_
    · rintro s p db hcall ⟨hdb, ha, hb⟩
      cases hcall
      refine ⟨congrArg (fun db : Memory => db.setSavepoint.2) hdb, ha, hb, ?_⟩
      change s.database.setSavepoint.1 = _
      rw [hdb, switchAutoCommit_of_switchable hs]
      rfl
    · rintro s f db hcall -
      cases hcall
  restore a b := fun _ hs => hs.elim
  changeIsolation a b p := by
    refine Driver.changeIsolation_secures (A := fun _ _ s => s.database = before.begun ∧
      a = before.autoCommit ∧ b = before.isolation ∧ p = before.setSavepoint.1) ?_ ?_ ?_ ?_
    · rintro - s ⟨hdb, ha, -, hp⟩
      exact ⟨hdb ▸ begun_inside hs, ha, hp⟩
    · intro l _ _
      exact driver.ask_triple fun s answer db hprobe hs => by cases hprobe; exact hs
    · rintro l s ⟨hdb, ha, -, hp⟩
      exact ⟨hdb ▸ begun_inside hs, ha, hp⟩
    · intro l
      refine driver.perform_secures ?_ ?_
      · rintro s u db hcall ⟨hdb, ha, hb, hp⟩
        cases hcall
        obtain ⟨hinside, hcopy, hoff⟩ : Inside allowed before none s.database ∧
            Copied allowed before s.database ∧ s.database.autoCommit = false :=
          hdb ▸ begun_inside hs
        obtain ⟨hinside, hcopy⟩ := hinside.changeIsolation hcopy l
        exact ⟨⟨hb ▸ hinside, hcopy, hoff⟩, ha, hp⟩
      · rintro s f db hcall -
        cases hcall
  act a b p c := by
    refine Secures.of_run fun s ⟨⟨hinside, hcopy, hoff⟩, ha, hp⟩ => ?_
    exact ⟨hinside.later hcopy hoff (haction s hinside.switchable), ha, hp⟩
  commit a b p c v := by
    refine driver.perform_secures ?_ ?_
    · rintro s u db hcall ⟨⟨hinside, -⟩, ha, -⟩
      cases hcall
      exact ⟨hinside.commit, ha⟩
    · rintro s f db hcall -
      cases hcall
  putBack a b c v := by
    rintro s ⟨hs, rfl⟩
    exact Secures.weaken (left_putBack v) (fun _ _ hs => hs) (fun _ hs => hs.elim) s hs
  log a b p c s l hs := hs
  abort a b p c := by
    rintro s ⟨hs, rfl, hp⟩
    exact left_abort hp s hs

theorem Course.stays {s t : Session Memory} (h : Course allowed s t)
    (hs : s.database.refuseAutoCommit = false) : Stays allowed s.database t.database := by
  induction h with
  | aside h =>
      rw [h]
      exact .of_stored (.refl hs) rfl
  | call c s hc => exact stays_call hs c hc
  | define | disconnect | setBatch =>
      exact .of_stored ⟨hs, Nat.le_refl _, Nat.le_refl _, fun _ _ _ _ _ _ => rfl⟩ rfl
  | transaction wanted haction s ih =>
      exact ((nestingOutline hs wanted ih).secures.run s rfl).toStays
  | trans _ _ ih ih' => exact (ih hs).trans (ih' (ih hs).switchable)

/-- A transaction that fails leaves auto-commit as it was, whatever its action does. It leaves the
isolation level, if the action does not set it itself. And it leaves the table, if nothing was
committed in between and the action neither switches auto-commit on nor releases the savepoint. -/
theorem failed_transaction_unwound {s t : Session Memory} (hs : Reachable s.database)
    (hswitchable : s.database.refuseAutoCommit = false) (wanted : Option IsolationLevel)
    {action : Act Memory Error α} (haction : ∀ s, Course allowed s (action.run s).2) {e : Error}
    (h : (driver.inTransaction wanted action).run s = (.error e, t)) :
    t.database.autoCommit = s.database.autoCommit ∧
      ((∀ level, ¬ allowed (.setIsolation level)) → t.database.isolation = s.database.isolation) ∧
      (¬ allowed (.setAutoCommit true) → ¬ allowed (.releaseSavepoint s.database.setSavepoint.1) →
        t.database.commits = s.database.commits → t.database.table = s.database.table) := by
  have hleft : Left allowed s.database t.database :=
    (nestingOutline hswitchable wanted fun s hs => (haction s).stays hs).secures.run.of_run rfl h
  refine ⟨hleft.autoCommit, hleft.isolation, fun hquiet hrelease hcommits => ?_⟩
  exact hleft.undone ⟨hs.numbered, hquiet, hrelease, hcommits⟩

theorem updates_course (updates : List PlainUpdate) (fail : Option String) (s : Session Memory) :
    Course (fun _ => False) s ((Client.updates driver updates fail).run s).2 :=
  ((course_stewardship _).updates s updates fail []).run s (.aside rfl)

/-! ### Two runs -/

/-- A row that was inserted is taken back, after a transaction within for two more rows has
failed. -/
theorem failed_transaction_unwound_nested :
    let s : Session Memory := { database := Memory.define {} "INSERT" Procedure.insert }
    let action := Client.updates driver [⟨"INSERT", [[.text "Ada"]], {}⟩,
      ⟨"INSERT", [[.text "Bob"], [.null]], {}⟩] none
    let outcome := (driver.inTransaction none action).run s
    Reachable s.database ∧ s.database.refuseAutoCommit = false ∧
      (∀ s, Course (fun _ => False) s (action.run s).2) ∧
      (outcome.1 = .error (.execution (.driver "ORA-01400: cannot insert NULL")) ∧
        outcome.2.database.commits = s.database.commits) ∧
      outcome.2.database.autoCommit = s.database.autoCommit ∧
      outcome.2.database.isolation = s.database.isolation ∧
      outcome.2.database.table = s.database.table := by
  have unwound (s : Session Memory) (action : Act Memory Error (List UInt64)) {e : Error}
      (hs : Reachable s.database) (hswitchable : s.database.refuseAutoCommit = false)
      (haction : ∀ s, Course (fun _ => False) s (action.run s).2)
      (hfailed : ((driver.inTransaction none action).run s).1 = .error e)
      (hcommits : ((driver.inTransaction none action).run s).2.database.commits =
        s.database.commits) :
      let t := ((driver.inTransaction none action).run s).2
      t.database.autoCommit = s.database.autoCommit ∧
        t.database.isolation = s.database.isolation ∧ t.database.table = s.database.table := by
    obtain ⟨hauto, hisolation, htable⟩ :=
      failed_transaction_unwound hs hswitchable none haction (Prod.ext hfailed rfl)
    exact ⟨hauto, hisolation fun _ => not_false, htable not_false not_false hcommits⟩
  have haction := updates_course [⟨"INSERT", [[.text "Ada"]], {}⟩,
    ⟨"INSERT", [[.text "Bob"], [.null]], {}⟩] none
  refine ⟨.define _ _ .start, rfl, haction, ?run, unwound _ _ (.define _ _ .start) rfl haction
    (And.left ?run) (And.right ?run)⟩
  decide +kernel

/-- Of a transaction that fails, what a transaction within has committed stays. So does the row that
an action inserts once it has switched auto-commit on or released the savepoint, and so does the
isolation level that it sets. -/
theorem nested_commit_stays :
    let s : Session Memory := { database := Memory.define {} "INSERT" Procedure.insert }
    let nested := (driver.inTransaction none (Client.updates driver
      [⟨"INSERT", [[.text "Ada"], [.text "Bob"]], {}⟩] (some "stop"))).run s
    let after (c : Call) := (driver.inTransaction none (do
      let _ ← surfaced (driver.perform c)
      Client.updates driver [⟨"INSERT", [[.text "Ada"]], {}⟩] (some "stop"))).run s
    (s.database.table.rows = [] ∧ s.database.isolation = .readCommitted) ∧
      (nested.1 = .error (.execution (.caller "stop")) ∧
        nested.2.database.table.rows = [[.int 1, .text "Ada"], [.int 2, .text "Bob"]] ∧
        nested.2.database.events = [.autoCommit false, .savepoint "SP_1", .autoCommit false,
          .savepoint "SP_2", .prepare .dml, .commit, .autoCommit false, .release "SP_1",
          .autoCommit true]) ∧
      ((after (.setAutoCommit true)).1 = .error (.execution (.caller "stop")) ∧
        (after (.setAutoCommit true)).2.database.table.rows = [[.int 1, .text "Ada"]]) ∧
      ((after (.releaseSavepoint ⟨1, "SP_1"⟩)).1 = .error (.execution (.caller "stop")) ∧
        (after (.releaseSavepoint ⟨1, "SP_1"⟩)).2.database.table.rows = [[.int 1, .text "Ada"]]) ∧
      (after (.setIsolation .serializable)).1 = .error (.execution (.caller "stop")) ∧
      (after (.setIsolation .serializable)).2.database.isolation = .serializable := by
  decide +kernel

end SqlGateway.Database.Memory
