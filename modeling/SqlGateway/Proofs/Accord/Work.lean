import SqlGateway.Proofs.Accord.Operation

/-!
# Work on a connection

What a caller does on a connection with the library's operations, as data: one after another, each
with what the ones before have given, in transactions or outside, up to the first error. A cursor
that is opened is closed by a deed of its own, or kept for the jobs that read its rows.
-/

namespace SqlGateway

/-- `τ` is what handlers for output values give, `β` is what the deed gives. -/
inductive Deed (τ : Type) : Type → Type 1 where
  | update (u : PlainUpdate) : Deed τ UInt64
  | updateWithKeys {α β : Type} (u : PlainUpdate) (keys : GeneratedKeys) (mapper : RowMapper α)
      (aggregate : List α → β) : Deed τ β
  | query (sql : String) (values : List Value) (options : Options) : Deed τ (ResultCursor τ)
  | call (sql : String) (params : List Parameter) (options : Options)
      (handler : Option (OutMapper τ)) : Deed τ (ResultCursor τ)
  | invoke {β : Type} (sql : String) (params : List Parameter) (options : Options)
      (mapper : OutMapper β) : Deed τ β
  | close (cursor : ResultCursor τ) : Deed τ Unit

inductive Work (τ : Type) : Type → Type 1 where
  | done {α : Type} (a : α) : Work τ α
  /-- An error of the caller's own. -/
  | raise {α : Type} (e : Error) : Work τ α
  | deed {α β : Type} (first : Deed τ β) (next : β → Work τ α) : Work τ α
  | transaction {α β : Type} (isolation : Option IsolationLevel) (inner : Work τ β)
      (next : β → Work τ α) : Work τ α

variable {σ σ' τ β ι : Type}

def Deed.run (d : Driver σ) : Deed τ β → Act σ Error β
  | .update u => d.executeUpdate u.sql u.rows u.options
  | .updateWithKeys u keys mapper aggregate =>
    d.executeUpdateWithKeys u.sql u.rows u.options keys mapper aggregate
  | .query sql values options => d.executeQuery sql values options
  | .call sql params options handler => d.executeCall sql params options handler
  | .invoke sql params options mapper => d.invokeCall sql params options mapper
  | .close cursor => d.close cursor

/-- What the caller brings along has the property that goes with its kind: mappers of rows and
mappers of output values. -/
def Deed.Brings (mapping : (α : Type) → RowMapper α → Prop)
    (reading : (α : Type) → OutMapper α → Prop) : Deed τ β → Prop
  | .updateWithKeys _ _ mapper _ => mapping _ mapper
  | .invoke _ _ _ mapper => reading _ mapper
  | _ => True

namespace Work

def run (d : Driver σ) {α : Type} : Work τ α → Act σ Error α
  | .done a => pure a
  | .raise e => throw e
  | .deed first next => do (next (← first.run d)).run d
  | .transaction isolation inner next => do
    (next (← d.inTransaction isolation (inner.run d))).run d

/-- So have the errors that the caller raises. -/
def Brings (mapping : (α : Type) → RowMapper α → Prop) (reading : (α : Type) → OutMapper α → Prop)
    (raising : Error → Prop) {α : Type} : Work τ α → Prop
  | .done _ => True
  | .raise e => raising e
  | .deed first next =>
    first.Brings mapping reading ∧ ∀ b, (next b).Brings mapping reading raising
  | .transaction _ inner next =>
    inner.Brings mapping reading raising ∧ ∀ b, (next b).Brings mapping reading raising

/-- Updates one after another, and a failure at the end if a text for that is given. -/
def updates (counts : List UInt64) (fail : Option String) : List PlainUpdate →
    Work τ (List UInt64)
  | [] =>
    match fail with
    | some text => .raise (.execution (.caller text))
    | none => .done counts
  | u :: us => .deed (.update u) fun count => updates (counts ++ [count]) fail us

theorem updates_run (d : Driver σ) (us : List PlainUpdate) (fail : Option String) :
    (updates [] fail us : Work τ (List UInt64)).run d = Client.updates d us fail := by
  have from_counts (counts : List UInt64) :
      (updates counts fail us : Work τ (List UInt64)).run d = (do
        let more ← us.mapM fun u => d.executeUpdate u.sql u.rows u.options
        match fail with
        | some text => throw (.execution (.caller text))
        | none => return counts ++ more) := by
    induction us generalizing counts with
    | nil => cases fail <;> simp [updates, run]
    | cons u us ih =>
        rw [List.mapM_cons]
        simp only [updates, run, Deed.run, bind_assoc, pure_bind]
        refine bind_congr fun count => (ih _).trans ?_
        simp
  exact from_counts []

end Work

section

variable {mapping mapping' : (α : Type) → RowMapper α → Prop}
  {reading reading' : (α : Type) → OutMapper α → Prop} {raising raising' : Error → Prop}

theorem Deed.Brings.mono (hmapping : ∀ α mapper, mapping α mapper → mapping' α mapper)
    (hreading : ∀ α mapper, reading α mapper → reading' α mapper) {first : Deed τ β}
    (h : first.Brings mapping reading) : first.Brings mapping' reading' := by
  cases first with
  | updateWithKeys u keys mapper aggregate => exact hmapping _ mapper h
  | invoke sql params options mapper => exact hreading _ mapper h
  | _ => trivial

theorem Work.Brings.mono (hmapping : ∀ α mapper, mapping α mapper → mapping' α mapper)
    (hreading : ∀ α mapper, reading α mapper → reading' α mapper)
    (hraising : ∀ e, raising e → raising' e) {α : Type} {w : Work τ α}
    (h : w.Brings mapping reading raising) : w.Brings mapping' reading' raising' := by
  induction w with
  | done a => trivial
  | raise e => exact hraising e h
  | deed first next ih => exact ⟨h.1.mono hmapping hreading, fun b => ih b (h.2 b)⟩
  | transaction isolation inner next ih_inner ih => exact ⟨ih_inner h.1, fun b => ih b (h.2 b)⟩

end

variable {d : Driver σ} {d' : Driver σ'} {v : ι → Phases σ σ'}

namespace Concord

variable (h : Concord d d' v)
include h

theorem deed (x : ι) (first : Deed τ β) (hbrings : first.Brings
      (fun _ mapper => ∀ x, (v x).Maps d d' mapper) fun _ mapper => ∀ x, (v x).Reads d d' mapper) :
    Concur (v x).going (first.run d) (first.run d') (fun _ => (v x).going) (v x).failed := by
  have hx := h.accord x
  cases first with
  | update u => exact h.executeUpdate x u.sql u.rows u.options
  | updateWithKeys u keys mapper aggregate =>
      exact h.executeUpdateWithKeys x hbrings u.sql u.rows u.options keys aggregate
  | query sql values options =>
      exact Concur.weaken (hx.executeQuery sql values options) (fun _ _ _ hs => hs.2.2)
        fun _ _ _ hs => hs
  | call sql params options handler => exact hx.executeCall sql params options handler
  | invoke sql params options mapper => exact hx.invokeCall sql params options (hbrings x)
  | close cursor => exact Concur.weaken (hx.close cursor) (fun _ _ _ hs => hs) hx.failed_of_failing

theorem work {α : Type} (w : Work τ α)
    (hbrings : w.Brings (fun _ mapper => ∀ x, (v x).Maps d d' mapper)
      (fun _ mapper => ∀ x, (v x).Reads d d' mapper)
      fun e => ∀ x s s', (v x).going s s' → (v x).failed e s s') (x : ι) :
    Concur (v x).going (w.run d) (w.run d') (fun _ => (v x).going) (v x).failed := by
  induction w generalizing x with
  | done a => exact Concur.pure fun _ _ hs => hs
  | raise e => exact Concur.throw (hbrings x)
  | deed first next ih => exact Concur.bind (h.deed x first hbrings.1) fun b => ih b (hbrings.2 b) x
  | transaction isolation inner next ih_inner ih =>
      exact Concur.bind (h.transaction isolation (ih_inner hbrings.1) x) fun b =>
        ih b (hbrings.2 b) x

end Concord

end SqlGateway
