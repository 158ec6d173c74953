import SqlGateway.Database.ResultSet
import SqlGateway.Registry

/-!
# Results of executions

What an execution produces, and what may still be asked of a statement after it: the result that it
is on, the results ahead, the output values and the generated keys. `ρ` is the type of results, `κ`
that of the cells of keys.
-/

namespace SqlGateway.Database

variable {ρ κ : Type}

structure Execution (ρ κ : Type) where
  count : Int64 := 0
  results : List ρ := []
  out : List (Nat × Value) := []
  keys : Option (ResultSet κ) := none

structure Results (ρ κ : Type) where
  current : Option ρ := none
  pending : List ρ := []
  out : List (Nat × Value) := []
  keys : Option (ResultSet κ) := none

namespace Results

def ofExecution (e : Execution ρ κ) : Results ρ κ :=
  { pending := e.results, out := e.out, keys := e.keys }

def advance (r : Results ρ κ) : Bool × Results ρ κ :=
  match r.pending with
  | result :: pending => (true, { r with current := some result, pending })
  | [] => (false, { r with current := none })

/-- The value of an output parameter; null if the execution gave none. -/
def outValue (r : Results ρ κ) (position : Nat) : Value :=
  ((r.out.find? (·.1 == position)).map (·.2)).getD .null

def withoutCurrent (r : Results ρ κ) : Results ρ κ :=
  { r with current := none }

def withoutKeys (r : Results ρ κ) : Results ρ κ :=
  { r with keys := none }

/-! ## What is left to fetch -/

def ahead (size : ρ → Nat) : List ρ → Nat
  | [] => 0
  | result :: pending => size result + 1 + ahead size pending

/-- The results and rows that may still be moved on to; `size` counts the rows of a result. -/
def supply (size : ρ → Nat) (r : Results ρ κ) : Nat :=
  ahead size r.pending + (r.current.map size).getD 0 +
    (r.keys.map (·.rows.length)).getD 0

variable (size : ρ → Nat)

theorem supply_advance_le (r : Results ρ κ) : r.advance.2.supply size ≤ r.supply size := by
  simp only [advance]
  split <;> simp only [supply, *, ahead, Option.map_some, Option.map_none, Option.getD_some,
    Option.getD_none] <;> omega

theorem supply_advance_lt (r : Results ρ κ) (h : r.advance.1 = true) :
    r.advance.2.supply size < r.supply size := by
  simp only [advance] at h ⊢
  split
  · simp only [supply, *, ahead, Option.map_some, Option.getD_some]
    omega
  · rename_i hp
    simp [hp] at h

theorem supply_withoutCurrent (r : Results ρ κ) :
    r.withoutCurrent.supply size + (r.current.map size).getD 0 = r.supply size := by
  simp [supply, withoutCurrent]
  omega

theorem supply_withoutKeys (r : Results ρ κ) :
    r.withoutKeys.supply size + (r.keys.map (·.rows.length)).getD 0 = r.supply size := by
  simp [supply, withoutKeys]

end Results

namespace CursorState

theorem ahead_next_le (c : CursorState κ) : c.next.2.ahead.length ≤ c.ahead.length := by
  simp only [next]
  split <;> simp [*]

theorem ahead_next_lt (c : CursorState κ) (h : c.next.1 = true) :
    c.next.2.ahead.length < c.ahead.length := by
  simp only [next] at h ⊢
  split <;> simp_all

end CursorState

end SqlGateway.Database
