import SqlGateway.Cursor.Result

/-!
# Mapping rows

The remaining rows of a result cursor, each given to the caller's mapper as it is reached. The first
failure, of a call or of the mapper, ends the cursor and is the last item.
-/

namespace SqlGateway.Driver

variable {σ τ α : Type} {d : Driver σ}

/-! ## What a row takes from the supply -/

theorem supply_seek_row {statement current switched} {s s' : Session σ} {c b}
    (h : d.seek statement current switched s = (.row c b, s')) : s'.supply d < s.supply d := by
  fun_induction d.seek statement current switched s with
  | case1 switched s c' s1 hn =>
    cases h
    exact supply_next_lt hn
  | case2 switched s c' s1 hn s2 a hc ih =>
    have h1 := Frugal.le_of_eq (d := d) (Frugal.perform rfl) hn
    have h2 := Frugal.le_of_eq (d := d) (Frugal.perform rfl) hc
    have h3 := ih h
    omega
  | case3 => cases h
  | case4 => cases h
  | case5 switched s i hi s1 hm c' s2 ho ih =>
    have h1 := Frugal.le_of_eq (d := d) (Frugal.perform rfl) hm
    have h2 := Frugal.le_of_eq (d := d) (Frugal.openCursor i) ho
    have h3 := ih h
    omega
  | case6 switched s i hi s1 hm s2 ho ih =>
    have h1 := Frugal.le_of_eq (d := d) (Frugal.perform rfl) hm
    have h2 := Frugal.le_of_eq (d := d) (Frugal.openCursor i) ho
    have h3 := ih h
    omega
  | case7 => cases h
  | case8 => cases h
  | case9 => cases h
  | case10 => cases h

theorem frugal_release (cursor : ResultCursor τ) : Frugal d (d.release cursor) := by
  obtain ⟨statement, current, _⟩ := cursor
  cases current <;> cases statement
  · exact Frugal.pure _
  · exact Frugal.bind (Frugal.orWarn (Frugal.perform rfl) _) fun _ => Frugal.pure _
  · exact Frugal.bind (Frugal.orWarn (Frugal.perform rfl) _) fun _ => Frugal.pure _
  · exact Frugal.bind (Frugal.orWarn (Frugal.perform rfl) _) fun _ =>
      Frugal.bind (Frugal.orWarn (Frugal.perform rfl) _) fun _ => Frugal.pure _

theorem frugal_refreshRow (cursor : ResultCursor τ) : Frugal d (d.refreshRow cursor).run := by
  unfold refreshRow
  split
  · exact Frugal.bindAct (Frugal.perform rfl) fun _ => Frugal.pureAct _
  · exact Frugal.pureAct _

theorem frugal_describeRow (cursor : ResultCursor τ) : Frugal d (d.describeRow cursor) := by
  refine Frugal.bind (frugal_refreshRow cursor) fun r => ?_
  cases r with
  | ok cursor => exact Frugal.pure _
  | error f =>
    exact Frugal.bind (Frugal.debug _) fun _ =>
      Frugal.bind (frugal_release cursor) fun _ => Frugal.pure _

theorem finish_ne_row (cursor : ResultCursor τ) (s : Session σ) (row) :
    (d.finish cursor s).1.1 ≠ .ok (some row) := by
  simp only [finish, bind, StateT.bind]
  obtain ⟨⟨fired, cursor⟩, s⟩ := d.fireHandler cursor s
  intro h
  cases fired <;> cases h

theorem supply_nextRow_lt {cursor cursor' : ResultCursor τ} {row} {s s' : Session σ}
    (h : d.nextRow cursor s = ((.ok (some row), cursor'), s')) : s'.supply d < s.supply d := by
  unfold nextRow at h
  split at h
  · cases h
  · simp only [bind, StateT.bind] at h
    generalize hs : d.seek cursor.statement cursor.current cursor.stale s = sought at h
    obtain ⟨sought, s1⟩ := sought
    cases sought with
    | row c b =>
      have h1 := supply_seek_row hs
      have h2 : s'.supply d ≤ s1.supply d := Frugal.le_of_eq (frugal_describeRow _) h
      omega
    | exhausted => exact absurd (congrArg (·.1.1) h) (finish_ne_row _ s1 row)
    | failed f held => cases congrArg (·.1.1) h

/-! ## Mapping -/

/-- Maps the remaining rows, at most as many as `limit` says. -/
def mapRows (d : Driver σ) (mapper : RowMapper α) (limit : Option Nat)
    (cursor : ResultCursor τ) (s : Session σ) :
    (List (Except Error α) × ResultCursor τ) × Session σ :=
  if limit = some 0 then (([], cursor), s)
  else match _hr : d.nextRow cursor s with
    | ((.error e, cursor'), s') => (([.error e], cursor'), s')
    | ((.ok none, cursor'), s') => (([], cursor'), s')
    | ((.ok (some current), cursor'), s') =>
      match _hm : (d.readRow current.cursor (mapper current.row)).run s' with
      | (.error e, s'') =>
        let (cursor', s'') := d.release cursor' s''
        (([.error e], cursor'), s'')
      | (.ok a, s'') =>
        let ((rest, cursor''), s3) := mapRows d mapper (limit.map (· - 1)) cursor' s''
        ((.ok a :: rest, cursor''), s3)
termination_by s.supply d
decreasing_by
  have h1 := supply_nextRow_lt _hr
  have h2 := Frugal.le_of_eq (frugal_readRow _ _) _hm
  omega

def collect : List (Except Error α) → Except Error (List α)
  | [] => .ok []
  | .ok a :: rest => (collect rest).map (a :: ·)
  | .error e :: _ => .error e

def rowMaps (d : Driver σ) (cursor : ResultCursor τ) :
    Plain σ (Except Error (List RowMap) × ResultCursor τ) := do
  let (items, cursor) ← d.mapRows Row.toMap none cursor
  return (collect items, cursor)

end SqlGateway.Driver
