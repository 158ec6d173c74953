import SqlGateway.Proofs.Cursor.State

/-!
# Walks

A walk takes the rows of a result cursor one turn at a time, and reads from each what it likes. It
may look at the rows itself or have them mapped; a mapper that fails ends the cursor. It can stop
anywhere.
-/

namespace SqlGateway

variable {σ τ α : Type}

/-- One turn of a walk, with what is to be read from the row that it comes to. -/
inductive Turn (α : Type) where
  | next (reading : RowMapper α)
  | map (mapper : RowMapper α)

/-- What a turn gives. A row comes with the session in which it was reached. -/
inductive Given (σ α : Type) where
  | row (current : CurrentRow) (seen : Session σ) (read : Except Error α)
  | unmapped (current : CurrentRow) (seen : Session σ) (e : Error)
  | ended
  | failed (e : Error)

namespace Given

/-- The row that was reached, and the session in which it was. -/
def reached : Given σ α → Option (CurrentRow × Session σ)
  | .row current seen _ | .unmapped current seen _ => some (current, seen)
  | .ended | .failed _ => none

/-- What comes out of a turn of a mapping. -/
def item : Given σ α → Option (Except Error α)
  | .row _ _ read => some read
  | .unmapped _ _ e | .failed e => some (.error e)
  | .ended => none

/-- Whether a turn was the last that can give anything. -/
def isLast : Given σ α → Bool
  | .row .. => false
  | .unmapped .. | .ended | .failed _ => true

end Given

namespace Driver

variable (d : Driver σ)

/-- What is read from the row that a cursor is on. -/
def useRow (current : CurrentRow) (cursor : ResultCursor τ) (s : Session σ) :
    Turn α → (Given σ α × ResultCursor τ) × Session σ
  | .next reading =>
    let (read, s') := (d.readRow current.cursor (reading current.row)).run s
    ((.row current s read, cursor), s')
  | .map mapper =>
    match (d.readRow current.cursor (mapper current.row)).run s with
    | (.ok a, s') => ((.row current s (.ok a), cursor), s')
    | (.error e, s') =>
      let (cursor, s') := d.release cursor s'
      ((.unmapped current s e, cursor), s')

def takeTurn (turn : Turn α) (cursor : ResultCursor τ) (s : Session σ) :
    (Given σ α × ResultCursor τ) × Session σ :=
  match d.nextRow cursor s with
  | ((.error e, cursor), s) => ((.failed e, cursor), s)
  | ((.ok none, cursor), s) => ((.ended, cursor), s)
  | ((.ok (some current), cursor), s) => d.useRow current cursor s turn

def takeTurns (cursor : ResultCursor τ) (s : Session σ) :
    List (Turn α) → (List (Given σ α) × ResultCursor τ) × Session σ
  | [] => (([], cursor), s)
  | turn :: turns =>
    let ((given, cursor), s) := d.takeTurn turn cursor s
    let ((rest, cursor), s) := takeTurns cursor s turns
    ((given :: rest, cursor), s)

end Driver

namespace Driver

variable {d : Driver σ} {cursor : ResultCursor τ}

/-! ## Closed cursors -/

theorem takeTurn_of_closed (h : cursor.closed = true) (turn : Turn α) (s : Session σ) :
    d.takeTurn turn cursor s = ((.ended, cursor), s) := by
  unfold takeTurn
  rw [nextRow_of_closed h]
  rfl

theorem takeTurns_of_closed (h : cursor.closed = true) (turns : List (Turn α))
    (s : Session σ) :
    d.takeTurns cursor s turns = ((List.replicate turns.length .ended, cursor), s) := by
  induction turns with
  | nil => rfl
  | cons turn turns ih => simp only [takeTurns, takeTurn_of_closed h, ih, List.length_cons,
      List.replicate_succ]

/-! ## Mappings -/

/-- A mapping is a walk. -/
theorem mapRows_takeTurns (mapper : RowMapper α) (limit : Option Nat) (cursor : ResultCursor τ)
    (s : Session σ) :
    ∃ n given, d.takeTurns cursor s (List.replicate n (.map mapper)) =
        ((given, (d.mapRows mapper limit cursor s).1.2), (d.mapRows mapper limit cursor s).2) ∧
      given.filterMap Given.item = (d.mapRows mapper limit cursor s).1.1 := by
  fun_induction d.mapRows mapper limit cursor s with
  | case1 cursor s => exact ⟨0, [], rfl, rfl⟩
  | case2 limit cursor s hl e cursor' s' hr =>
      exact ⟨1, [.failed e], by simp [takeTurns, takeTurn, hr], rfl⟩
  | case3 limit cursor s hl cursor' s' hr =>
      exact ⟨1, [.ended], by simp [takeTurns, takeTurn, hr], rfl⟩
  | case4 limit cursor s hl current cursor' s' hr e s'' hm cursor'' s3 hrel =>
      exact ⟨1, [.unmapped current s' e], by simp [takeTurns, takeTurn, useRow, hr, hm, hrel], rfl⟩
  | case5 limit cursor s hl current cursor' s' hr a s'' hm rest cursor'' s3 hrest ih =>
      obtain ⟨n, given, hn, hitems⟩ := ih
      rw [hrest] at hn hitems
      refine ⟨n + 1, .row current s' (.ok a) :: given, ?_, ?_⟩
      · simp [takeTurns, takeTurn, useRow, hr, hm, List.replicate_succ, hn]
      · rw [List.filterMap_cons, hitems]
        rfl

end Driver

end SqlGateway
