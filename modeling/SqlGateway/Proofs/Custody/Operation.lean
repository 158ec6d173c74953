import SqlGateway.Gateway.Run
import SqlGateway.Proofs.Act.Transaction
import SqlGateway.Proofs.Custody.Execution

/-!
# Custody through operations

A transaction makes calls on the connection itself, and what it does in between it does from where
those calls led. So a family of conditions is needed here, one for each place to start from, where
transactions keep each of the family if what they run does.
-/

namespace SqlGateway

variable {σ τ α β ι : Type} {d : Driver σ}

/-! ## Transactions -/

/-- The outline of a condition that all calls about transactions keep. -/
def Outline.kept {P : Session σ → Prop} {wanted : Option IsolationLevel} {act : Act σ Error α}
    (hlog : ∀ s l, P s → P { s with log := l })
    (hask : ∀ p, Triple P (d.ask p) fun _ => P)
    (hcall : ∀ c : Call, c.isTransactional = true → Keeps P (d.perform c))
    (hact : Keeps P act) : Outline d wanted act P (fun _ => P) P where
  asked _ := P
  known _ _ := P
  manual _ _ := P
  unmarked _ _ := P
  marked _ _ _ := P
  ready _ _ _ _ := P
  worked _ _ _ _ _ := P
  failing _ _ _ _ := P
  committed _ _ _ _ := P
  autoCommit := hcall .autoCommit rfl
  isolation _ := hcall .isolation rfl
  setAutoCommit _ _ := hcall _ rfl
  setSavepoint _ _ := hcall .setSavepoint rfl
  restore _ _ := Driver.restore_triple hlog hlog (hcall _ rfl) nofun fun _ _ hs => hs
  changeIsolation _ _ _ := Driver.changeIsolation_secures (fun _ _ hs => hs) (fun _ _ _ => hask _)
    (fun _ _ hs => hs) fun _ => hcall _ rfl
  act _ _ _ _ := hact
  commit _ _ _ _ _ := hcall .commit rfl
  putBack _ _ _ _ := Driver.putBack_secures (M := fun _ => P) (R := fun _ => P) (hcall _ rfl)
    (fun _ _ _ => hcall _ rfl) fun _ _ _ hs => hs
  log _ _ _ _ s l hs := hlog s l hs
  abort _ _ _ _ := by
    refine Triple.bind (Secures.orWarn hlog (hcall _ rfl)) fun _ => ?_
    refine Triple.bind (Secures.orWarn hlog (hcall _ rfl)) fun _ => ?_
    exact Driver.restore_triple hlog hlog (hcall _ rfl) (fun _ _ => hcall _ rfl) fun _ _ hs => hs

/-- Conditions in custody that transactions keep as well. -/
structure Stewardship (d : Driver σ) (I : ι → List Holding → Session σ → Prop) : Prop where
  custody (x : ι) : Custody d (I x)
  transaction {α : Type} {act : Act σ Error α} (isolation : Option IsolationLevel)
    (h : ∀ x L, Keeps (I x L) act) (x : ι) (L : List Holding) :
    Keeps (I x L) (d.inTransaction isolation act)

/-- What is left open with an outcome. -/
def Outcome.holdings : Outcome τ → List Holding
  | .rowCount _ => []
  | .rows cursor => cursor.holdings

def Outcome.Sound : Outcome τ → Prop
  | .rowCount _ => True
  | .rows cursor => cursor.Sound

theorem Custody.stewardship {I : List Holding → Session σ → Prop} (hI : Custody d I)
    (hcall : ∀ L (c : Call), c.isTransactional = true → Keeps (I L) (d.perform c)) :
    Stewardship d fun _ : Unit => I where
  custody _ := hI
  transaction _ h x L := (Outline.kept (fun _ l hs => hI.log l hs) (fun p => hI.ask p L)
    (hcall L) (h x L)).secures

namespace Stewardship

variable {I : ι → List Holding → Session σ → Prop} (hI : Stewardship d I)
include hI

/-! ## Updates -/

theorem transacted {act : Act σ Error α} {rows : List (List Value)} {options : Options}
    (h : ∀ x L, Keeps (I x L) act) (x : ι) (L : List Holding) :
    Keeps (I x L) (d.transacted rows options act) := by
  unfold Driver.transacted
  split
  · exact hI.transaction options.isolation h x L
  · exact h x L

theorem executeUpdate (sql : String) (rows : List (List Value)) (options : Options) (x : ι)
    (L : List Holding) : Keeps (I x L) (d.executeUpdate sql rows options) := by
  have run : Keeps (I x L) (d.transacted rows options
      (d.runUpdate sql .none rows options fun i batch =>
        surfaced (d.runRows i rows options.large batch))) := by
    refine hI.transacted (fun x L => ?_) x L
    exact (hI.custody x).runUpdate fun i batch =>
      ((hI.custody x).runRows i rows options.large batch L).surfaced
  refine Secures.bind Keeps.ofExcept fun _ => ?_
  split
  · exact Secures.bind (Secures.lift ((hI.custody x).debug _ L)) fun _ => Keeps.pure
  · exact Secures.bind (Secures.lift ((hI.custody x).debug _ L)) fun _ => run

theorem executeUpdateWithKeys (sql : String) (rows : List (List Value)) (options : Options)
    (keys : GeneratedKeys) (mapper : RowMapper α) (aggregate : List α → β) (x : ι)
    (L : List Holding) :
    Keeps (I x L) (d.executeUpdateWithKeys sql rows options keys mapper aggregate) := by
  have run (keys : GeneratedKeys) : Keeps (I x L) (d.transacted rows options
      (d.runUpdate sql keys rows options fun i batch =>
        d.runKeys i rows options.large batch mapper)) := by
    refine hI.transacted (fun x L => ?_) x L
    exact (hI.custody x).runUpdate fun i batch =>
      (hI.custody x).runKeys i rows options.large batch mapper L
  refine Secures.bind Keeps.ofExcept fun _ => ?_
  split
  · exact Secures.bind (Secures.lift ((hI.custody x).debug _ L)) fun _ => Keeps.pure
  · refine Secures.bind (Secures.lift ((hI.custody x).debug _ L)) fun _ => ?_
    exact Secures.bind (run _) fun collected => Keeps.pure

/-! ## Through a gateway -/

theorem connect (provider : Provider) (x : ι) (L : List Holding) :
    Keeps (I x L) (provider.connect d) := by
  cases provider with
  | shared => exact Keeps.pure
  | onDemand => exact ((hI.custody x).acquire L).surfaced

theorem select (q : Select) (x : ι) (L : List Holding) :
    Secures (I x L) (q.execute d : Act σ Error (ResultCursor τ))
      (fun cursor s => cursor.Sound ∧ I x (cursor.holdings ++ L) s) (I x L) :=
  Secures.bind (hI.connect q.provider x L) fun _ => (hI.custody x).executeQuery _ _ _ L

theorem single (q : Select) (mapper : RowMapper α) (x : ι) (L : List Holding) :
    Keeps (I x L) (q.single d mapper) := by
  have close (cursor : ResultCursor Empty) (hc : cursor.Sound) (first : Option α) :
      Secures (I x (cursor.holdings ++ L)) (do
        d.close cursor
        return first : Act σ Error (Option α)) (fun _ => I x L) (I x L) :=
    Secures.bind ((hI.custody x).close hc L) fun _ => Keeps.pure
  refine Secures.bind (hI.select q x L) fun cursor => ?_
  refine Secures.assuming fun hc => ?_
  refine Secures.bind (Secures.lift ((hI.custody x).nextRow hc L)) fun r => ?_
  obtain ⟨row, cursor⟩ := r
  refine Secures.assuming fun hm => ?_
  refine Secures.bind (Q := fun a s => row = .ok a ∧ I x (cursor.holdings ++ L) s)
    (Secures.ofExcept (fun a ha s hs => ⟨ha, hs⟩) ?_) fun a => Secures.assuming fun ha => ?_
  · rintro e rfl s hs
    rwa [ResultCursor.Spent.holdings hm] at hs
  obtain rfl : row = .ok a := ha
  cases a with
  | none => exact close cursor hm.sound none
  | some row =>
      refine Secures.lift_run ((hI.custody x).readCurrent hm _ L)
        (fun a => close cursor hm.sound (some a)) fun e => ?_
      exact Secures.bind (Secures.lift ((hI.custody x).drop hm.sound L)) fun _ => Keeps.throw

theorem update (u : Update) (x : ι) (L : List Holding) : Keeps (I x L) (u.execute d) :=
  Secures.bind (hI.connect u.provider x L) fun _ => hI.executeUpdate _ _ _ x L

theorem updateWithKeys (u : Update) (keys : GeneratedKeys) (mapper : RowMapper α)
    (aggregate : List α → β) (x : ι) (L : List Holding) :
    Keeps (I x L) (u.executeWithKeys d keys mapper aggregate) :=
  Secures.bind (hI.connect u.provider x L) fun _ =>
    hI.executeUpdateWithKeys _ _ _ keys mapper aggregate x L

theorem call (c : ProcedureCall τ) (x : ι) (L : List Holding) :
    Secures (I x L) (c.execute d)
      (fun cursor s => cursor.Sound ∧ I x (cursor.holdings ++ L) s) (I x L) :=
  Secures.bind (hI.connect c.provider x L) fun _ => (hI.custody x).executeCall _ _ _ _ L

theorem invoke (c : ProcedureCall τ) (mapper : OutMapper α) (x : ι) (L : List Holding) :
    Keeps (I x L) (c.invokeWith d mapper) :=
  Secures.bind (hI.connect c.provider x L) fun _ => (hI.custody x).invokeCall _ _ _ mapper L

theorem execute (g : Gateway) (sql : String) (params : Params) (x : ι) (L : List Holding) :
    Secures (I x L) (g.execute d sql params : Act σ Error (Outcome τ))
      (fun outcome s => outcome.Sound ∧ I x (outcome.holdings ++ L) s) (I x L) := by
  refine Secures.bind Keeps.ofExcept fun query => ?_
  dsimp only
  split
  · exact Secures.bind (hI.select _ x L) fun cursor => Secures.pure fun _ hs => hs
  · exact Secures.bind (hI.update _ x L) fun count => Secures.pure fun _ hs => ⟨trivial, hs⟩
  · exact Secures.bind (hI.call _ x L) fun cursor => Secures.pure fun _ hs => hs

end Stewardship

end SqlGateway
