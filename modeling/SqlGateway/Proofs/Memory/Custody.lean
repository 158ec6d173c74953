import SqlGateway.Proofs.Custody.Operation
import SqlGateway.Proofs.Memory.Calls

/-!
# Open statements and cursors of an in-memory database

The numbers of open statements and cursors are those from before and what has been opened since.
They are also the numbers of those that have been made and not been closed.
-/

namespace SqlGateway.Database.Memory

/-! ## What opening and closing does -/

namespace Tally

def made (t : Tally) (x : Handle) : Tally where
  closed y := !decide (y = x) && t.closed y
  statements := match x with
    | .statement _ => t.statements + 1
    | .cursor _ => t.statements
  cursors := match x with
    | .statement _ => t.cursors
    | .cursor _ => t.cursors + 1

def ended (t : Tally) (x : Handle) : Tally where
  closed y := decide (y = x) || t.closed y
  statements := match x with
    | .statement _ => t.statements - 1
    | .cursor _ => t.statements
  cursors := match x with
    | .statement _ => t.cursors
    | .cursor _ => t.cursors - 1

end Tally

theorem tally_prepare {db db' : Memory} {i : StatementId} {sql : String} {kind : StatementKind}
    {keys : GeneratedKeys} (h : db.prepare i sql kind keys = (.ok (), db')) :
    db'.tally = db.tally.made (.statement i) := by
  unfold prepare at h
  split at h
  · cases h
  · split at h
    · cases h
    · cases h
      refine congrArg (Tally.mk · _ _) (funext fun x => ?_)
      refine (closedAt_putStatement db i _ x).trans ?_
      by_cases hx : x = .statement i <;> simp [hx, tally]

theorem tally_of_unprepared {db db' : Memory} {i : StatementId} {sql : String}
    {kind : StatementKind} {keys : GeneratedKeys} {f : Failure}
    (h : db.prepare i sql kind keys = (.error f, db')) : db'.tally = db.tally := by
  unfold prepare at h
  split at h
  · cases h
    rfl
  · split at h <;> cases h
    rfl

theorem tally_openSet (db : Memory) (c : CursorId) (set : ResultSet Value) :
    (db.openSet c set).tally = db.tally.made (.cursor c) := by
  refine congrArg (Tally.mk · _ _) (funext fun x => ?_)
  refine (closedAt_putCursor db c _ x).trans ?_
  by_cases hx : x = .cursor c <;> simp [hx, tally, CursorState.ofSet]

theorem tally_openCursor {db db' : Memory} {i : StatementId} {c : CursorId} {opened : Bool}
    (h : driver.call (.resultCursor i c) db = (.ok opened, db')) :
    db'.tally = if opened then db.tally.made (.cursor c) else db.tally := by
  have hput := db.tally_putStatement (i := i)
    (s := { db.statement i with results := (db.statement i).results.withoutCurrent }) rfl
  change ((.ok (db.openCursor i c).1, (db.openCursor i c).2) : Except Failure Bool × Memory) = _
    at h
  unfold openCursor at h
  dsimp only at h
  split at h <;> cases h
  · rw [if_pos rfl, tally_openSet, hput]
  · exact hput

theorem tally_openKeys {db db' : Memory} {i : StatementId} {c : CursorId} {u : Unit}
    (h : db.openKeys i c = (.ok u, db')) : db'.tally = db.tally.made (.cursor c) := by
  have hput := db.tally_putStatement (i := i)
    (s := { db.statement i with results := (db.statement i).results.withoutKeys }) rfl
  unfold openKeys at h
  dsimp only at h
  split at h <;> cases h
  rw [tally_openSet, hput]

theorem tally_of_unopenedKeys {db db' : Memory} {i : StatementId} {c : CursorId} {f : Failure}
    (h : db.openKeys i c = (.error f, db')) : db'.tally = db.tally := by
  unfold openKeys at h
  dsimp only at h
  split at h <;> cases h
  rfl

theorem tally_closeStatement {db : Memory} {i : StatementId}
    (h : db.closedAt (.statement i) = false) :
    (db.closeStatement i).tally = db.tally.ended (.statement i) := by
  unfold closeStatement
  dsimp only
  rw [if_neg (by rw [show (db.statement i).closed = false from h]; nofun)]
  refine congrArg (Tally.mk · _ _) (funext fun x => ?_)
  refine (closedAt_putStatement db i _ x).trans ?_
  by_cases hx : x = .statement i <;> simp [hx, tally]

theorem tally_closeCursor {db : Memory} {c : CursorId} (h : db.closedAt (.cursor c) = false) :
    (db.closeCursor c).tally = db.tally.ended (.cursor c) := by
  unfold closeCursor
  dsimp only
  rw [if_neg (by rw [show (db.cursor c).closed = false from h]; nofun)]
  refine congrArg (Tally.mk · _ _) (funext fun x => ?_)
  refine (closedAt_putCursor db c _ x).trans ?_
  by_cases hx : x = .cursor c <;> simp [hx, tally]

/-! ## What goes with opening and closing -/

/-- What is said of `L` and of the tally, where `n` statements and `m` cursors have been made so
far, goes along with what is opened and closed. -/
structure Tally.Follows (A : Nat → Nat → List Holding → Tally → Prop) : Prop where
  perm {n m : Nat} {L L' : List Holding} {t : Tally} : L.Perm L' → A n m L t → A n m L' t
  alive {n m : Nat} {L : List Holding} {t : Tally} :
    A n m L t → ∀ x ∈ handlesOf L, t.closed x = false
  prepared {n m : Nat} {L : List Holding} {t : Tally} :
    A n m L t → A (n + 1) m (⟨⟨n + 1⟩, none⟩ :: L) (t.made (.statement ⟨n + 1⟩))
  opened {n m : Nat} {i : StatementId} {L : List Holding} {t : Tally} :
    A n m (⟨i, none⟩ :: L) t →
      A n (m + 1) (⟨i, some ⟨m + 1⟩⟩ :: L) (t.made (.cursor ⟨m + 1⟩))
  closedCursor {n m : Nat} {i : StatementId} {c : CursorId} {L : List Holding} {t : Tally} :
    A n m (⟨i, some c⟩ :: L) t → A n m (⟨i, none⟩ :: L) (t.ended (.cursor c))
  closedStatement {n m : Nat} {i : StatementId} {L : List Holding} {t : Tally} :
    A n m (⟨i, none⟩ :: L) t → A n m L (t.ended (.statement i))

def Tallied (A : Nat → Nat → List Holding → Tally → Prop) (L : List Holding) (s : Session Memory) :
    Prop :=
  A s.statements s.cursors L s.database.tally

section

variable {A : Nat → Nat → List Holding → Tally → Prop}

theorem tallied_work {c : Call} (hc : c.movesHandles = false) (L : List Holding) :
    Keeps (Tallied A L) (driver.perform c) := by
  refine Secures.of_run fun s hs => ?_
  change A _ _ _ (call c s.database).2.tally
  rw [tally_call s.database hc]
  exact hs

variable (hA : Tally.Follows A)
include hA

theorem tallied_prepare (sql : String) (kind : StatementKind) (keys : GeneratedKeys)
    (L : List Holding) :
    Secures (Tallied A L) (driver.prepare sql kind keys) (fun i => Tallied A (⟨i, none⟩ :: L))
      (Tallied A L) := by
  refine Driver.prepare_secures fun s₀ => driver.perform_secures ?_ ?_
  · rintro s u db hcall ⟨rfl, hs⟩
    change A _ _ _ db.tally
    rw [tally_prepare hcall]
    exact hA.prepared hs
  · rintro s f db hcall ⟨rfl, hs⟩
    change A _ _ _ db.tally
    rw [tally_of_unprepared hcall]
    exact hs

theorem tallied_openCursor (i : StatementId) (L : List Holding) :
    Secures (Tallied A (⟨i, none⟩ :: L)) (driver.openCursor i) (fun o => Tallied A (⟨i, o⟩ :: L))
      (Tallied A (⟨i, none⟩ :: L)) := by
  refine Driver.openCursor_secures fun s₀ => driver.perform_secures ?_ ?_
  · rintro s opened db hcall ⟨rfl, hs⟩
    have htally := tally_openCursor hcall
    cases opened with
    | true =>
        change A _ _ _ db.tally
        rw [htally]
        exact hA.opened hs
    | false =>
        change A _ _ _ db.tally
        rw [htally]
        exact hs
  · rintro s f db hcall ⟨rfl, hs⟩
    cases hcall

theorem tallied_openKeys (i : StatementId) (L : List Holding) :
    Secures (Tallied A (⟨i, none⟩ :: L)) (driver.openKeys i)
      (fun k => Tallied A (⟨i, some k⟩ :: L)) (Tallied A (⟨i, none⟩ :: L)) := by
  refine Driver.openKeys_secures fun s₀ => driver.perform_secures ?_ ?_
  · rintro s u db hcall ⟨rfl, hs⟩
    change A _ _ _ db.tally
    rw [tally_openKeys hcall]
    exact hA.opened hs
  · rintro s f db hcall ⟨rfl, hs⟩
    change A _ _ _ db.tally
    rw [tally_of_unopenedKeys hcall]
    exact hs

theorem tallied_custody : Custody driver (Tallied A) where
  perm hL hs := hA.perm hL hs
  log _ hs := hs
  ask p _ := driver.ask_triple fun s answer db hprobe hs => by
    cases p <;> cases hprobe <;> exact hs
  acquire L := tallied_work rfl L
  prepare := tallied_prepare hA
  workStatement h _ _ := tallied_work h.2 _
  workCursor h _ _ := tallied_work h.2 _
  openCursor := tallied_openCursor hA
  openKeys := tallied_openKeys hA
  closeCursor i k L := Secures.of_run fun s hs => by
    change A _ _ _ (s.database.closeCursor k).tally
    rw [tally_closeCursor (hA.alive hs _ (List.mem_cons_of_mem _ List.mem_cons_self))]
    exact hA.closedCursor hs
  closeStatement i L := Secures.of_run fun s hs => by
    change A _ _ _ (s.database.closeStatement i).tally
    rw [tally_closeStatement (hA.alive hs _ List.mem_cons_self)]
    exact hA.closedStatement hs

end

/-! ## Keeping count -/

/-- What is open besides what was open before, where `n` statements and `m` cursors have been made
so far. -/
structure Afloat (base : Memory) (n m : Nat) (L : List Holding) (t : Tally) : Prop where
  statements : t.statements = base.openStatements + L.length
  cursors : t.cursors = base.openCursors + (L.filterMap Holding.cursor).length
  alive : ∀ x ∈ handlesOf L, t.closed x = false
  named : ∀ x ∈ handlesOf L, x.UpTo n m
  nodup : (handlesOf L).Nodup

namespace Afloat

variable {base : Memory} {n m : Nat} {L L' : List Holding} {t : Tally}

theorem perm (hL : L.Perm L') (h : Afloat base n m L t) : Afloat base n m L' t where
  statements := hL.length_eq ▸ h.statements
  cursors := (hL.filterMap _).length_eq ▸ h.cursors
  alive x hx := h.alive x ((hL.flatMap_right _).mem_iff.mpr hx)
  named x hx := h.named x ((hL.flatMap_right _).mem_iff.mpr hx)
  nodup := (hL.flatMap_right _).nodup_iff.mp h.nodup

theorem fresh (h : Afloat base n m L t) {x : Handle} (hx : ¬ x.UpTo n m) : x ∉ handlesOf L :=
  fun hm => hx (h.named x hm)

theorem made (h : Afloat base n m L t) {x : Handle} {n' m' : Nat} (hn : n ≤ n') (hm : m ≤ m')
    (hx : ¬ x.UpTo n m) (hx' : x.UpTo n' m') (hL : (handlesOf L').Perm (x :: handlesOf L))
    (hs : (t.made x).statements = base.openStatements + L'.length)
    (hc : (t.made x).cursors = base.openCursors + (L'.filterMap Holding.cursor).length) :
    Afloat base n' m' L' (t.made x) where
  statements := hs
  cursors := hc
  alive y hy := by
    rcases List.mem_cons.mp (hL.mem_iff.mp hy) with rfl | hy
    · simp [Tally.made]
    · simp [Tally.made, h.alive y hy]
  named y hy := by
    rcases List.mem_cons.mp (hL.mem_iff.mp hy) with rfl | hy
    · exact hx'
    · exact (h.named y hy).mono hn hm
  nodup := hL.nodup_iff.mpr (List.nodup_cons.mpr ⟨h.fresh hx, h.nodup⟩)

theorem ended (h : Afloat base n m L t) {x : Handle} (hL : (handlesOf L).Perm (x :: handlesOf L'))
    (hs : (t.ended x).statements = base.openStatements + L'.length)
    (hc : (t.ended x).cursors = base.openCursors + (L'.filterMap Holding.cursor).length) :
    Afloat base n m L' (t.ended x) where
  statements := hs
  cursors := hc
  alive y hy := by
    have hne : y ≠ x := by
      rintro rfl
      exact (List.nodup_cons.mp (hL.nodup_iff.mp h.nodup)).1 hy
    simp [Tally.ended, hne, h.alive y (hL.mem_iff.mpr (List.mem_cons_of_mem _ hy))]
  named y hy := h.named y (hL.mem_iff.mpr (List.mem_cons_of_mem _ hy))
  nodup := (List.nodup_cons.mp (hL.nodup_iff.mp h.nodup)).2

/-! ### One lemma for each kind of call -/

theorem prepared (h : Afloat base n m L t) :
    Afloat base (n + 1) m (⟨⟨n + 1⟩, none⟩ :: L) (t.made (.statement ⟨n + 1⟩)) := by
  refine h.made (Nat.le_succ _) (Nat.le_refl _) (Nat.not_succ_le_self _) (Nat.le_refl _)
    (List.Perm.refl _) ?_ ?_
  · exact congrArg (· + 1) h.statements
  · exact h.cursors

theorem opened {i : StatementId} (h : Afloat base n m (⟨i, none⟩ :: L) t) :
    Afloat base n (m + 1) (⟨i, some ⟨m + 1⟩⟩ :: L) (t.made (.cursor ⟨m + 1⟩)) := by
  refine h.made (Nat.le_refl _) (Nat.le_succ _) (Nat.not_succ_le_self _) (Nat.le_refl _)
    (List.Perm.swap _ _ _) ?_ ?_
  · exact h.statements
  · exact congrArg (· + 1) h.cursors

theorem closedCursor {i : StatementId} {c : CursorId} (h : Afloat base n m (⟨i, some c⟩ :: L) t) :
    Afloat base n m (⟨i, none⟩ :: L) (t.ended (.cursor c)) := by
  refine h.ended (List.Perm.swap _ _ _) h.statements ?_
  exact congrArg (· - 1) h.cursors

theorem closedStatement {i : StatementId} (h : Afloat base n m (⟨i, none⟩ :: L) t) :
    Afloat base n m L (t.ended (.statement i)) := by
  refine h.ended (List.Perm.refl _) ?_ h.cursors
  exact congrArg (· - 1) h.statements

theorem follows (base : Memory) : Tally.Follows (Afloat base) where
  perm := perm
  alive := alive
  prepared := prepared
  opened := opened
  closedCursor := closedCursor
  closedStatement := closedStatement

end Afloat

/-! ## What was made and not closed -/

/-- How many are open of the first `n` that were made of a kind. -/
def Tally.left (t : Tally) (f : Nat → Handle) (n : Nat) : Nat :=
  (List.range' 1 n).countP fun j => !t.closed (f j)

namespace Tally

variable {t : Tally} {f : Nat → Handle} {n : Nat} {x : Handle}

theorem left_congr {t' : Tally} (h : ∀ j, 1 ≤ j → j ≤ n → t'.closed (f j) = t.closed (f j)) :
    t'.left f n = t.left f n := by
  refine List.countP_congr fun j hj => ?_
  obtain ⟨h₁, h₂⟩ := List.mem_range'_1.mp hj
  rw [h j h₁ (by omega)]

theorem left_made (hx : ∀ j, f j = x → n < j) : (t.made x).left f n = t.left f n := by
  refine left_congr fun j _ hj => ?_
  have hne : f j ≠ x := fun he => Nat.not_lt.mpr hj (hx j he)
  simp [made, hne]

theorem left_made_next (hf : Function.Injective f) :
    (t.made (f (n + 1))).left f (n + 1) = t.left f n + 1 := by
  have hold : (t.made (f (n + 1))).left f n = t.left f n :=
    left_made fun j hj => Nat.lt_of_succ_le (Nat.le_of_eq (hf hj).symm)
  unfold left at hold ⊢
  rw [List.range'_1_concat, List.countP_append, hold, Nat.add_comm 1 n]
  simp [made]

theorem left_ended_of_ne (hx : ∀ j, f j ≠ x) : (t.ended x).left f n = t.left f n :=
  left_congr fun j _ _ => by simp [ended, hx j]

theorem left_ended (hf : Function.Injective f) {j : Nat} (h₁ : 1 ≤ j) (hj : j ≤ n)
    (hopen : t.closed (f j) = false) : (t.ended (f j)).left f n + 1 = t.left f n := by
  have hmem : j ∈ List.range' 1 n := List.mem_range'_1.mpr ⟨h₁, by omega⟩
  have hp := List.perm_cons_erase hmem
  have hnot : j ∉ (List.range' 1 n).erase j := List.Nodup.not_mem_erase List.nodup_range'
  have hrest : ((List.range' 1 n).erase j).countP (fun m => !(t.ended (f j)).closed (f m)) =
      ((List.range' 1 n).erase j).countP fun m => !t.closed (f m) := by
    refine List.countP_congr fun m hm => ?_
    have hne : f m ≠ f j := fun he => hnot (hf he ▸ hm)
    simp [ended, hne]
  unfold left
  rw [hp.countP_eq, hp.countP_eq, List.countP_cons, List.countP_cons, hrest]
  simp [ended, hopen]

end Tally

/-- The tally counts what has been made and not been closed. -/
structure Counted (n m : Nat) (L : List Holding) (t : Tally) : Prop where
  statements : t.statements = t.left (fun j => .statement ⟨j⟩) n
  cursors : t.cursors = t.left (fun j => .cursor ⟨j⟩) m
  given : ∀ x ∈ handlesOf L, ¬ x.UpTo 0 0

namespace Counted

variable {base : Memory} {n m : Nat} {L : List Holding} {t : Tally}

theorem injective_statement : Function.Injective fun j => Handle.statement ⟨j⟩ :=
  fun _ _ h => StatementId.mk.inj (Handle.statement.inj h)

theorem injective_cursor : Function.Injective fun j => Handle.cursor ⟨j⟩ :=
  fun _ _ h => CursorId.mk.inj (Handle.cursor.inj h)

theorem follows (base : Memory) :
    Tally.Follows fun n m L t => Afloat base n m L t ∧ Counted n m L t where
  perm hL h := ⟨h.1.perm hL, h.2.statements, h.2.cursors, fun x hx =>
    h.2.given x ((hL.flatMap_right _).mem_iff.mpr hx)⟩
  alive h := h.1.alive
  prepared {n m L t} h := by
    refine ⟨h.1.prepared, ?_, ?_, ?_⟩
    · exact (congrArg (· + 1) h.2.statements).trans (Tally.left_made_next injective_statement).symm
    · refine h.2.cursors.trans (Eq.symm ?_)
      exact Tally.left_made nofun
    · intro x hx
      rcases List.mem_cons.mp hx with rfl | hx
      · exact Nat.not_succ_le_zero _
      · exact h.2.given x hx
  opened {n m i L t} h := by
    refine ⟨h.1.opened, ?_, ?_, ?_⟩
    · refine h.2.statements.trans (Eq.symm ?_)
      exact Tally.left_made nofun
    · exact (congrArg (· + 1) h.2.cursors).trans (Tally.left_made_next injective_cursor).symm
    · intro x hx
      rcases List.mem_cons.mp hx with rfl | hx
      · exact h.2.given _ List.mem_cons_self
      · rcases List.mem_cons.mp hx with rfl | hx
        · exact Nat.not_succ_le_zero _
        · exact h.2.given x (List.mem_cons_of_mem _ hx)
  closedCursor {n m i c L t} h := by
    have hc : Handle.cursor c ∈ handlesOf (⟨i, some c⟩ :: L) :=
      List.mem_cons_of_mem _ List.mem_cons_self
    have hended := Tally.left_ended (t := t) injective_cursor
      (Nat.lt_of_not_le (h.2.given _ hc)) (h.1.named _ hc) (h.1.alive _ hc)
    refine ⟨h.1.closedCursor, ?_, ?_, ?_⟩
    · refine h.2.statements.trans (Eq.symm ?_)
      exact Tally.left_ended_of_ne nofun
    · exact (congrArg (· - 1) (h.2.cursors.trans hended.symm)).trans (Nat.add_sub_cancel _ _)
    · intro x hx
      rcases List.mem_cons.mp hx with rfl | hx
      · exact h.2.given _ List.mem_cons_self
      · exact h.2.given x (List.mem_cons_of_mem _ (List.mem_cons_of_mem _ hx))
  closedStatement {n m i L t} h := by
    have hi : Handle.statement i ∈ handlesOf (⟨i, none⟩ :: L) := List.mem_cons_self
    have hended := Tally.left_ended (t := t) injective_statement
      (Nat.lt_of_not_le (h.2.given _ hi)) (h.1.named _ hi) (h.1.alive _ hi)
    refine ⟨h.1.closedStatement, ?_, ?_, fun x hx => h.2.given x (List.mem_cons_of_mem _ hx)⟩
    · exact (congrArg (· - 1) (h.2.statements.trans hended.symm)).trans (Nat.add_sub_cancel _ _)
    · refine h.2.cursors.trans (Eq.symm ?_)
      exact Tally.left_ended_of_ne nofun

end Counted

/-! ## Sessions -/

/-- In a session that has been brought from `base` to where it is, `L` is open. -/
def Holds (base : Memory) (L : List Holding) (s : Session Memory) : Prop :=
  s.database.surroundings = base.surroundings ∧
    Afloat base s.statements s.cursors L s.database.tally

theorem surroundings_custody (base : Memory) : Custody driver fun _ (s : Session Memory) =>
    s.database.surroundings = base.surroundings := by
  refine Custody.of_calls (fun _ _ hs => hs) (fun _ _ _ hs => hs) (fun p => ?_) fun c hc => ?_
  · exact driver.ask_triple fun s answer db hprobe hs => by cases p <;> cases hprobe <;> exact hs
  · exact Secures.of_run fun s hs => (surroundings_call s.database hc).trans hs

/-- The count of what is open is in custody. -/
theorem holds_custody (base : Memory) : Custody driver (Holds base) :=
  Custody.and (surroundings_custody base) (tallied_custody (Afloat.follows base))

end SqlGateway.Database.Memory
