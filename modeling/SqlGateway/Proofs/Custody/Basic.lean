import SqlGateway.Cursor.Result
import SqlGateway.Proofs.Act.Execution

/-!
# Custody

What is open in a session: statements, and on each of them at most one cursor. A condition that goes
with what is open is in custody if every call that is made on what is open carries it along. Acts
are shown once to make such calls only; each condition in custody then follows through all of them.
-/

namespace SqlGateway

/-- A statement that is open, and the cursor that is open on it, if any. -/
structure Holding where
  statement : StatementId
  cursor : Option CursorId := none
  deriving DecidableEq, Repr

/-! ## Names -/

def handlesOf (L : List Holding) : List Handle :=
  L.flatMap fun h => .statement h.statement :: h.cursor.toList.map .cursor

theorem handlesOf_append (L L' : List Holding) :
    handlesOf (L ++ L') = handlesOf L ++ handlesOf L' :=
  List.flatMap_append

theorem mem_handlesOf {L : List Holding} {h : Holding} (hh : h ∈ L) :
    .statement h.statement ∈ handlesOf L :=
  List.mem_flatMap.mpr ⟨h, hh, List.mem_cons_self⟩

/-- The name was given by the time that `n` statements and `m` cursors had been made. -/
def Handle.UpTo (n m : Nat) : Handle → Prop
  | .statement i => i.number ≤ n
  | .cursor c => c.number ≤ m

theorem Handle.UpTo.mono {n m n' m' : Nat} {h : Handle} (hh : h.UpTo n m) (hn : n ≤ n')
    (hm : m ≤ m') : h.UpTo n' m' := by
  cases h with
  | statement i => exact Nat.le_trans hh hn
  | cursor c => exact Nat.le_trans hh hm

variable {σ τ α : Type} {d : Driver σ} {I : List Holding → Session σ → Prop}

/-- `I L` is a condition on sessions in which `L` is open. Opening and closing lead from one such
condition to the next, and all other work on what is open keeps it. -/
structure Custody (d : Driver σ) (I : List Holding → Session σ → Prop) : Prop where
  perm {L L' : List Holding} {s : Session σ} : L.Perm L' → I L s → I L' s
  log {L : List Holding} {s : Session σ} (l : List LogEntry) : I L s → I L { s with log := l }
  ask (p : Probe) (L : List Holding) : Triple (I L) (d.ask p) fun _ => I L
  acquire (L : List Holding) : Keeps (I L) (d.perform .acquire)
  prepare (sql : String) (kind : StatementKind) (keys : GeneratedKeys) (L : List Holding) :
    Secures (I L) (d.prepare sql kind keys) (fun i => I (⟨i, none⟩ :: L)) (I L)
  workStatement {c : Call} {i : StatementId} (h : c.WorksOn (.statement i)) (o : Option CursorId)
    (L : List Holding) : Keeps (I (⟨i, o⟩ :: L)) (d.perform c)
  workCursor {c : Call} {k : CursorId} (h : c.WorksOn (.cursor k)) (i : StatementId)
    (L : List Holding) : Keeps (I (⟨i, some k⟩ :: L)) (d.perform c)
  openCursor (i : StatementId) (L : List Holding) :
    Secures (I (⟨i, none⟩ :: L)) (d.openCursor i) (fun o => I (⟨i, o⟩ :: L)) (I (⟨i, none⟩ :: L))
  openKeys (i : StatementId) (L : List Holding) :
    Secures (I (⟨i, none⟩ :: L)) (d.openKeys i) (fun k => I (⟨i, some k⟩ :: L))
      (I (⟨i, none⟩ :: L))
  closeCursor (i : StatementId) (k : CursorId) (L : List Holding) :
    Secures (I (⟨i, some k⟩ :: L)) (d.perform (.closeCursor k)) (fun _ => I (⟨i, none⟩ :: L))
      (I (⟨i, none⟩ :: L))
  closeStatement (i : StatementId) (L : List Holding) :
    Secures (I (⟨i, none⟩ :: L)) (d.perform (.closeStatement i)) (fun _ => I L) (I L)

theorem Custody.and {J : List Holding → Session σ → Prop} (hI : Custody d I) (hJ : Custody d J) :
    Custody d fun L s => I L s ∧ J L s where
  perm hL hs := ⟨hI.perm hL hs.1, hJ.perm hL hs.2⟩
  log l hs := ⟨hI.log l hs.1, hJ.log l hs.2⟩
  ask p L := fun s hs => ⟨hI.ask p L s hs.1, hJ.ask p L s hs.2⟩
  acquire L := (hI.acquire L).along (hJ.acquire L)
  prepare sql kind keys L := (hI.prepare sql kind keys L).along (hJ.prepare sql kind keys L)
  workStatement h o L := (hI.workStatement h o L).along (hJ.workStatement h o L)
  workCursor h i L := (hI.workCursor h i L).along (hJ.workCursor h i L)
  openCursor i L := (hI.openCursor i L).along (hJ.openCursor i L)
  openKeys i L := (hI.openKeys i L).along (hJ.openKeys i L)
  closeCursor i k L := (hI.closeCursor i k L).along (hJ.closeCursor i k L)
  closeStatement i L := (hI.closeStatement i L).along (hJ.closeStatement i L)

/-- A condition that has nothing to do with what is open is in custody if all calls but those about
transactions keep it. -/
theorem Custody.of_calls {P : Session σ → Prop} (hlog : ∀ s l, P s → P { s with log := l })
    (hcount : ∀ s n m, P s → P { s with statements := n, cursors := m })
    (hask : ∀ p, Triple P (d.ask p) fun _ => P)
    (hcall : ∀ c : Call, c.isTransactional = false → Keeps P (d.perform c)) :
    Custody d fun _ => P where
  perm _ hs := hs
  log l hs := hlog _ l hs
  ask p _ := hask p
  acquire _ := hcall _ rfl
  prepare _ _ _ _ := Keeps.prepare hcount fun _ => hcall _ rfl
  workStatement h _ _ := hcall _ h.not_isTransactional
  workCursor h _ _ := hcall _ h.not_isTransactional
  openCursor _ _ := Keeps.openCursor hcount fun _ => hcall _ rfl
  openKeys _ _ := Keeps.openKeys hcount fun _ => hcall _ rfl
  closeCursor _ _ _ := hcall _ rfl
  closeStatement _ _ := hcall _ rfl

namespace Custody

variable (hI : Custody d I)
include hI

theorem debug (text : String) (L : List Holding) :
    Triple (I L) (Session.debug text) fun _ => I L :=
  fun _ hs => hI.log _ hs

/-! ## Reading -/

theorem readRow (i : StatementId) (k : CursorId) (reading : CellReading Error α)
    (L : List Holding) : Keeps (I (⟨i, some k⟩ :: L)) (d.readRow k reading) :=
  Keeps.readRow (fun _ hc => hI.workCursor hc i L) reading

theorem readOut (i : StatementId) (o : Option CursorId) (reading : OutReading Error α)
    (L : List Holding) : Keeps (I (⟨i, o⟩ :: L)) (d.readOut i reading) := by
  refine Secures.of_run (Triple.reading (fun r => ?_) reading.run)
  exact hI.workStatement (c := .outValue i r.position r.type) ⟨rfl, rfl⟩ o L

theorem drain (i : StatementId) (mapper : RowMapper α) (k : CursorId) (L : List Holding) :
    Secures (I (⟨i, some k⟩ :: L)) (d.drain mapper k) (fun _ => I (⟨i, none⟩ :: L))
      (I (⟨i, none⟩ :: L)) :=
  Driver.drain_secures (M := fun _ => I (⟨i, some k⟩ :: L)) (R := fun _ => I (⟨i, none⟩ :: L))
    (Keeps.drainRows (fun _ hc => hI.workCursor hc i L) mapper none) fun _ => hI.closeCursor i k L

/-! ## Closing -/

theorem closeCursorWarned (i : StatementId) (k : CursorId) (what : String) (L : List Holding) :
    Triple (I (⟨i, some k⟩ :: L)) (orWarn (d.perform (.closeCursor k)) what)
      fun _ => I (⟨i, none⟩ :: L) :=
  Secures.orWarn (fun _ l hs => hI.log l hs) (hI.closeCursor i k L)

theorem closeStatementWarned (i : StatementId) (what : String) (L : List Holding) :
    Triple (I (⟨i, none⟩ :: L)) (orWarn (d.perform (.closeStatement i)) what) fun _ => I L :=
  Secures.orWarn (fun _ l hs => hI.log l hs) (hI.closeStatement i L)

end Custody

end SqlGateway
