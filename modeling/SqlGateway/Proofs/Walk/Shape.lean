import SqlGateway.Database.Scripted.Driver
import SqlGateway.Proofs.Walk.Settling
import SqlGateway.Proofs.Walk.Source

/-!
# The shape that a cursor keeps

A result cursor keeps the columns of the set of rows that is open, with their readers, and replaces
the readers only where the types differ. Whatever the driver does, the columns are those that the
open set has reported, the readers are the ones that they would be given anew, and each set in which
a row was reached was asked for its columns once.
-/

namespace SqlGateway

open Database Exchange

variable {σ τ α : Type} {d : Driver σ}

theorem Passed.unique {s s' : Session (Traced σ)} {t u : List Exchange} (h : Passed s s' t)
    (h' : Passed s s' u) : t = u :=
  List.append_cancel_left (h.symm.trans h')

theorem Passed.eq_drop {s s' : Session (Traced σ)} {t : List Exchange} (h : Passed s s' t) :
    t = s'.trace.drop s.trace.length := by
  rw [show s'.trace = s.trace ++ t from h, List.drop_left]

/-- What a move gives if it passes `u` after `t`. Where it has come to a row that row is given, with
the readers for the columns that its set has reported, unless these cannot be had. -/
def Presents (t u : List Exchange) (r : Except Error (Option CurrentRow)) : Prop :=
  ∀ c, u.any (·.stepsOn c) = true →
    (∃ columns, .call (.columns c) (.ok columns) ∈ t ++ u ∧
      r = .ok (some ⟨c, .ofColumns columns⟩)) ∨
    ∃ f, .call (.columns c) (.error f) ∈ u ∧ r = .error (.ofFailure f)

/-! ## Columns that are asked for -/

/-- Each set in which a row was reached was asked for its columns once, and no other set was. The
cursors of these sets have numbers up to `n`. -/
structure Accounted (t : List Exchange) (n : Nat) : Prop where
  asked : ∀ c, t.countP (·.asksColumns c) = (t.any (·.stepsOn c)).toNat
  stepped : ∀ c, t.any (·.stepsOn c) = true → c.number ≤ n

namespace Accounted

variable {t u v : List Exchange} {n n' : Nat}

theorem nil : Accounted [] n where
  asked _ := rfl
  stepped := nofun

theorem mono (h : Accounted t n) (hn : n ≤ n') : Accounted t n' where
  asked := h.asked
  stepped c hc := Nat.le_trans (h.stepped c hc) hn

theorem idle (h : Accounted t n) (hu : ∀ x ∈ u, x.Idle) : Accounted (t ++ u) n where
  asked c := by
    rw [List.countP_append, countP_asksColumns_of_idle hu, any_stepsOn_append_of_idle hu,
      Nat.add_zero, h.asked]
  stepped c hc := h.stepped c ((any_stepsOn_append_of_idle hu c).symm.trans hc)

theorem any_stepsOn_of_mem (h : Accounted t n) {c : CursorId}
    {answer : Except Failure (List Column)} (hmem : .call (.columns c) answer ∈ t) :
    t.any (·.stepsOn c) = true := by
  have hasks : asksColumns c (.call (.columns c) answer) = true := decide_eq_true rfl
  have hpos := List.countP_pos_iff.mpr ⟨_, hmem, hasks⟩
  rw [h.asked] at hpos
  cases hstep : t.any (·.stepsOn c) with
  | true => rfl
  | false =>
      rw [hstep] at hpos
      exact absurd hpos (Nat.lt_irrefl 0)

/-- A search, and after it as many questions for columns as there are sets reached anew. -/
theorem move (h : Accounted t n) {i : StatementId} {current : Option CursorId} {stale : Bool}
    {sought : Sought} (hs : Seeks i current stale v sought)
    (hsought : sought.Follows current stale n n') (hheld : ∀ c, current = some c → c.number ≤ n)
    (hn : n ≤ n') (hu : ∀ c, u.any (·.stepsOn c) = false)
    (hcount : ∀ c, (t.any (·.stepsOn c)).toNat + u.countP (·.asksColumns c) =
      (t.any (·.stepsOn c) || sought.isOn c).toNat) : Accounted (t ++ (v ++ u)) n' where
  asked c := by
    rw [List.countP_append, List.countP_append, hs.countP_asksColumns, List.any_append,
      List.any_append, hs.any_stepsOn, hu, Bool.or_false, h.asked, Nat.zero_add, hcount]
  stepped c hc := by
    rw [List.any_append, List.any_append, hs.any_stepsOn, hu, Bool.or_false,
      Bool.or_eq_true] at hc
    obtain hc | hc := hc
    · exact Nat.le_trans (h.stepped c hc) hn
    · cases sought with
      | row c' switched =>
          obtain rfl : c' = c := of_decide_eq_true hc
          obtain ⟨hc', -⟩ | ⟨-, -, hle⟩ := hsought c' switched rfl
          · exact Nat.le_trans (hheld c' hc') hn
          · exact hle
      | exhausted | failed => cases hc

end Accounted

/-! ## The invariant -/

/-- A cursor on the statement `i` is as what has passed in its own turns says. It is closed exactly
if the statement was, and then it holds nothing; otherwise it has the statement. The set that it is
on is described by the columns that it has reported, or it is stale and has had no row yet. -/
structure Represents (i : StatementId) (cursor : ResultCursor τ) (t : List Exchange)
    (n : Nat) : Prop extends Accounted t n where
  owned : cursor.isClosed = false → cursor.statement = some i
  closed : cursor.isClosed = t.any (·.closes i)
  released : cursor.isClosed = true →
    cursor.statement = none ∧ cursor.current = none ∧ cursor.row = none
  fits : ∀ row, cursor.row = some row → row.Fits
  described : cursor.isClosed = false → cursor.stale = false →
    ∃ c columns, cursor.current = some c ∧ cursor.row = some (.ofColumns columns) ∧
      .call (.columns c) (.ok columns) ∈ t
  unreached : ∀ c, cursor.current = some c → cursor.stale = true → t.any (·.stepsOn c) = false
  held : ∀ c, cursor.current = some c → c.number ≤ n

namespace Represents

variable {i : StatementId} {cursor cursor' : ResultCursor τ} {t u v : List Exchange} {n n' : Nat}

theorem made {current : Option CursorId} (slots : List OutSlot) (mapper : Option (OutMapper τ))
    (h : ∀ c, current = some c → c.number ≤ n) :
    Represents i ((ResultCursor.ofStatement i current).withHandler slots mapper) [] n where
  toAccounted := .nil
  owned _ := rfl
  closed := rfl
  released := nofun
  fits := nofun
  described := nofun
  unreached _ _ _ := rfl
  held := h

theorem on (h : Represents i cursor t n) (hopen : cursor.isClosed = false) : cursor.On i where
  closed := hopen
  statement := h.owned hopen
  described hstale := by
    obtain ⟨c, columns, -, hrow, -⟩ := h.described hopen hstale
    rw [hrow]
    rfl

/-- Open or spent, nothing in between. -/
theorem sound (h : Represents i cursor t n) : cursor.Sound := by
  cases hclosed : cursor.isClosed with
  | false => exact (h.on hclosed).sound
  | true =>
      obtain ⟨hstatement, hcurrent, -⟩ := h.released hclosed
      exact .inl ⟨hclosed, hstatement, hcurrent⟩

theorem mono (h : Represents i cursor t n) (hn : n ≤ n') : Represents i cursor t n' :=
  { h with
    toAccounted := h.toAccounted.mono hn
    held := fun c hc => Nat.le_trans (h.held c hc) hn }

/-- What does not concern the columns leaves the cursor as it is. -/
theorem idle (h : Represents i cursor t n) (hu : ∀ x ∈ u, x.Idle)
    (hopen : u.any (·.closes i) = false) : Represents i cursor (t ++ u) n where
  toAccounted := h.toAccounted.idle hu
  owned := h.owned
  closed := by rw [List.any_append, hopen, Bool.or_false, h.closed]
  released := h.released
  fits := h.fits
  described hclosed hstale := by
    obtain ⟨c, columns, hc, hrow, hmem⟩ := h.described hclosed hstale
    exact ⟨c, columns, hc, hrow, List.mem_append_left _ hmem⟩
  unreached c hc hstale := (any_stepsOn_append_of_idle hu c).trans (h.unreached c hc hstale)
  held := h.held

/-- A cursor that was given up owns nothing and keeps nothing. -/
theorem of_spent (h : Accounted t n) (hspent : cursor = cursor.spent)
    (hclosed : t.any (·.closes i) = true) : Represents i cursor t n := by
  rw [hspent]
  exact {
    toAccounted := h
    owned := nofun
    closed := hclosed.symm
    released _ := ⟨rfl, rfl, rfl⟩
    fits := nofun
    described := nofun
    unreached := nofun
    held := nofun }

/-- A cursor on a row keeps what its set has reported. -/
theorem of_row (h : Accounted t n) {c : CursorId} {columns : List Column}
    (hi : cursor.On i) (hopen : t.any (·.closes i) = false)
    (hmem : .call (.columns c) (.ok columns) ∈ t) :
    Represents i { cursor with current := some c, row := some (.ofColumns columns), stale := false }
      t n where
  toAccounted := h
  owned _ := hi.statement
  closed := hi.closed.trans hopen.symm
  released hc := absurd (hc.symm.trans hi.closed) nofun
  fits row hrow := by
    cases hrow
    rfl
  described _ _ := ⟨c, columns, rfl, rfl, hmem⟩
  unreached := nofun
  held c' hc' := by
    cases hc'
    exact h.stepped c (h.any_stepsOn_of_mem hmem)

section

variable {sought : Sought} {c : CursorId} {switched : Bool} {r : Except Error (Option CurrentRow)}
  (h : Represents i cursor t n) (hi : cursor.On i)

include h hi

/-- A row in a set that is not stale is described by what is kept. -/
theorem known (hsought : (Sought.row c false).Follows cursor.current cursor.stale n n') :
    ∃ columns, cursor.row = some (.ofColumns columns) ∧ .call (.columns c) (.ok columns) ∈ t := by
  obtain ⟨hc, hstale⟩ | ⟨hswitched, -⟩ := hsought c false rfl
  · obtain ⟨c', columns, hc', hrow, hmem⟩ := h.described hi.closed hstale.symm
    obtain rfl : c = c' := Option.some.inj (hc.symm.trans hc')
    exact ⟨columns, hrow, hmem⟩
  · cases hswitched

omit hi in
/-- A set that is new to the cursor has had no row yet. -/
theorem not_stepped (hsought : (Sought.row c true).Follows cursor.current cursor.stale n n') :
    t.any (·.stepsOn c) = false := by
  obtain ⟨hc, hstale⟩ | ⟨-, hlt, -⟩ := hsought c true rfl
  · exact h.unreached c hc hstale.symm
  · refine Bool.eq_false_iff.mpr fun hstep => ?_
    exact absurd (h.stepped c hstep) (Nat.not_le_of_lt hlt)

variable (hs : Seeks i cursor.current cursor.stale v sought)
  (hset : Settles i cursor sought u r cursor')
  (hsought : sought.Follows cursor.current cursor.stale n n')

include hs hset hsought

theorem accounted_move (hn : n ≤ n') : Accounted (t ++ (v ++ u)) n' := by
  refine h.toAccounted.move hs hsought h.held hn (fun c => ?_) fun c => ?_
  · cases hset with
    | known hrow => rfl
    | described => exact any_stepsOn_cons (List.forall_mem_nil _) _ c _
    | undescribed hw => exact any_stepsOn_cons hw.idle _ c _
    | closed hon hidle hcloses hspent => exact any_stepsOn_of_idle hidle c
  · cases hset with
    | known hrow =>
        obtain ⟨columns, -, hmem⟩ := h.known hi hsought
        exact toNat_of_stepped (h.any_stepsOn_of_mem hmem) c
    | described =>
        rw [countP_asksColumns_cons (List.forall_mem_nil _)]
        exact toNat_of_not_stepped (h.not_stepped hsought) c
    | undescribed hw =>
        rw [countP_asksColumns_cons hw.idle]
        exact toNat_of_not_stepped (h.not_stepped hsought) c
    | closed hon hidle hcloses hspent =>
        rw [countP_asksColumns_of_idle hidle, hon, Bool.or_false, Nat.add_zero]

/-- The invariant is kept by a move, which is a search and what it settles on. -/
theorem move (hn : n ≤ n') : Represents i cursor' (t ++ (v ++ u)) n' := by
  have haccounted := h.accounted_move hi hs hset hsought hn
  have hclosed : (t ++ (v ++ u)).any (·.closes i) = u.any (·.closes i) := by
    rw [List.any_append, List.any_append, ← h.closed, ResultCursor.isClosed, hi.closed,
      hs.any_closes]
    rfl
  cases hset with
  | @known c row hrow =>
      obtain ⟨columns, hcolumns, hmem⟩ := h.known hi hsought
      -- the cursor keeps what it had, which is what the set has reported before
      have hkeep : ({ cursor with current := some c, stale := false } : ResultCursor τ) =
          { cursor with current := some c, row := some (.ofColumns columns), stale := false } := by
        rw [hcolumns]
      rw [hkeep]
      exact of_row haccounted hi hclosed (List.mem_append_left _ hmem)
  | described => exact of_row haccounted hi hclosed (by simp)
  | undescribed hw => exact of_spent haccounted rfl (hclosed.trans hw.any_closes)
  | closed hon hidle hcloses hspent => exact of_spent haccounted hspent (hclosed.trans hcloses)

theorem presents : Presents t (v ++ u) r := by
  intro c hc
  rw [List.any_append, hs.any_stepsOn] at hc
  cases hset with
  | @known c' row hrow =>
      obtain rfl : c' = c := of_decide_eq_true ((Bool.or_false _).symm.trans hc)
      obtain ⟨columns, hcolumns, hmem⟩ := h.known hi hsought
      obtain rfl := Option.some.inj (hrow.symm.trans hcolumns)
      exact .inl ⟨columns, List.mem_append_left _ hmem, rfl⟩
  | @described c' columns =>
      rw [any_stepsOn_cons (List.forall_mem_nil _), Bool.or_false] at hc
      obtain rfl : c' = c := of_decide_eq_true hc
      exact .inl ⟨columns, by simp, rfl⟩
  | @undescribed c' f w hw =>
      rw [any_stepsOn_cons hw.idle, Bool.or_false] at hc
      obtain rfl : c' = c := of_decide_eq_true hc
      exact .inr ⟨f, by simp, rfl⟩
  | closed hon hidle hcloses hspent =>
      rw [hon, any_stepsOn_of_idle hidle] at hc
      cases hc

end

/-! ## Moves and turns -/

variable {s : Session (Traced σ)}

theorem nextRow (h : Represents i cursor t s.cursors) :
    ∃ u r cursor' s', d.traced.nextRow cursor s = ((r, cursor'), s') ∧ Passed s s' u ∧
      Represents i cursor' (t ++ u) s'.cursors ∧ Presents t u r := by
  cases hclosed : cursor.isClosed with
  | true =>
      refine ⟨[], .ok none, cursor, s, congrFun (Driver.nextRow_of_closed hclosed) s, .refl s,
        ?_, nofun⟩
      rwa [List.append_nil]
  | false =>
      have hi := h.on hclosed
      obtain ⟨v, u, sought, r, cursor', s', hr, hu, hn, hs, hsought, hset⟩ :=
        nextRow_settles (d := d) hi h.fits s
      exact ⟨v ++ u, r, cursor', s', hr, hu, h.move hi hs hset hsought hn,
        h.presents hi hs hset hsought⟩

theorem readRow (h : Represents i cursor t s.cursors) {c : CursorId} {reading : CellReading Error α}
    {s' : Session (Traced σ)} {r : Except Error α}
    (hr : (d.traced.readRow c reading).run s = (r, s')) :
    ∃ u, Passed s s' u ∧ Represents i cursor (t ++ u) s'.cursors := by
  obtain ⟨u, hu, hcells⟩ := readRow_ofCell hr
  have hmade := ((d.traced.custody_cursors s.cursors).readRow i c reading []).run.of_run
    (Nat.le_refl _) hr
  refine ⟨u, hu, (h.idle (fun x hx => (hcells x hx).idle) ?_).mono hmade⟩
  exact List.any_eq_false.mpr fun x hx => Bool.eq_false_iff.mp ((hcells x hx).closes i)

theorem release (h : Represents i cursor t s.cursors) (hi : cursor.statement = some i) :
    ∃ u s', d.traced.release cursor s = (cursor.spent, s') ∧ Passed s s' u ∧
      Represents i cursor.spent (t ++ u) s'.cursors := by
  obtain ⟨u, s', hr, hu, hreleases⟩ := release_passed (d := d) cursor hi s
  have hmade := ((d.traced.custody_cursors s.cursors).release h.sound []).of_run
    (Nat.le_refl _) hr
  have hclosed : (t ++ u).any (·.closes i) = true := by
    rw [List.any_append, hreleases.any_closes, Bool.or_true]
  exact ⟨u, s', hr, hu, (of_spent (h.toAccounted.idle hreleases.idle) rfl hclosed).mono hmade.2⟩

theorem useRow (h : Represents i cursor t s.cursors) (hi : cursor.statement = some i)
    (current : CurrentRow) (turn : Turn α) :
    ∃ u g cursor' s', d.traced.useRow current cursor s turn = ((g, cursor'), s') ∧
      Passed s s' u ∧ Represents i cursor' (t ++ u) s'.cursors := by
  cases turn with
  | next reading =>
      generalize hr : (d.traced.readRow current.cursor (reading current.row)).run s = result
      obtain ⟨read, s₁⟩ := result
      obtain ⟨u, hu, hread⟩ := h.readRow hr
      simp only [Driver.useRow, hr]
      exact ⟨u, _, cursor, s₁, rfl, hu, hread⟩
  | map mapper =>
      generalize hr : (d.traced.readRow current.cursor (mapper current.row)).run s = result
      obtain ⟨read, s₁⟩ := result
      obtain ⟨u, hu, hread⟩ := h.readRow hr
      simp only [Driver.useRow, hr]
      cases read with
      | ok a => exact ⟨u, _, cursor, s₁, rfl, hu, hread⟩
      | error e =>
          obtain ⟨v, s₂, hrel, hv, hspent⟩ := hread.release (d := d) hi
          rw [List.append_assoc] at hspent
          simp only [hrel]
          exact ⟨u ++ v, _, cursor.spent, s₂, rfl, hu.trans hv, hspent⟩

theorem takeTurn (h : Represents i cursor t s.cursors) (turn : Turn α) :
    ∃ u g cursor' s', d.traced.takeTurn turn cursor s = ((g, cursor'), s') ∧
      Passed s s' u ∧ Represents i cursor' (t ++ u) s'.cursors := by
  obtain ⟨u, r, cursor', s', hr, hu, hmoved, -⟩ := h.nextRow (d := d)
  simp only [Driver.takeTurn, hr]
  rcases r with e | _ | current
  · exact ⟨u, _, cursor', s', rfl, hu, hmoved⟩
  · exact ⟨u, _, cursor', s', rfl, hu, hmoved⟩
  · obtain ⟨⟨j, hj, -⟩, -⟩ := (d.traced.custody_true.nextRow h.sound []).of_run trivial hr
    have hi := hmoved.owned hj.closed
    obtain ⟨v, g, cursor'', s'', huse, hv, hused⟩ := hmoved.useRow (d := d) hi current turn
    rw [List.append_assoc] at hused
    exact ⟨u ++ v, g, cursor'', s'', huse, hu.trans hv, hused⟩

end Represents

/-! ## Reachable states -/

/-- The states that a result cursor on the statement `i` can reach, with what has passed in its own
turns. Between these others may be at work in the session. -/
inductive ResultCursor.Reachable (d : Driver σ) (i : StatementId) :
    ResultCursor τ → List Exchange → Session (Traced σ) → Prop
  | made {s : Session (Traced σ)} (current : Option CursorId) (slots : List OutSlot)
      (mapper : Option (OutMapper τ)) (h : ∀ c, current = some c → c.number ≤ s.cursors) :
      Reachable d i ((ofStatement i current).withHandler slots mapper) [] s
  | turn {α : Type} {cursor cursor' : ResultCursor τ} {t u : List Exchange}
      {s s' : Session (Traced σ)} {g : Given (Traced σ) α} (turn : Turn α)
      (h : Reachable d i cursor t s) (hturn : d.traced.takeTurn turn cursor s = ((g, cursor'), s'))
      (hu : Passed s s' u) : Reachable d i cursor' (t ++ u) s'
  | interlude {cursor : ResultCursor τ} {t : List Exchange} {s s' : Session (Traced σ)}
      (h : Reachable d i cursor t s) (hs : s.cursors ≤ s'.cursors) : Reachable d i cursor t s'

theorem exists_made_of_openSource {options : Options} {source : Source τ}
    {cursor : ResultCursor τ} {s s' : Session σ}
    (h : (d.openSource options source).run s = (.ok cursor, s')) :
    ∃ i slots mapper,
      cursor = (ResultCursor.ofStatement i cursor.current).withHandler slots mapper := by
  cases source with
  | query sql values =>
      obtain ⟨_, s₁, -, h⟩ := exists_of_run_bind h
      obtain ⟨⟨current, guard⟩, s₂, -, h⟩ := exists_of_run_bind h
      obtain ⟨i, s₃, -, h⟩ := exists_of_run_bind h
      cases h
      exact ⟨i, [], none, rfl⟩
  | call sql params handler =>
      obtain ⟨⟨⟨slots, onResult⟩, guard⟩, s₁, -, h⟩ := exists_of_run_bind h
      obtain ⟨i, s₂, -, h⟩ := exists_of_run_bind h
      obtain ⟨current, s₃, -, h⟩ := exists_of_run_bind h
      cases h
      exact ⟨i, slots, handler, rfl⟩

/-- What a query or a call brings is where a cursor starts from. -/
theorem ResultCursor.Reachable.of_openSource {options : Options} {source : Source τ}
    {cursor : ResultCursor τ} {i : StatementId} {s s' : Session (Traced σ)}
    (h : (d.traced.openSource options source).run s = (.ok cursor, s'))
    (hi : cursor.statement = some i) : cursor.Reachable d i [] s' := by
  obtain ⟨j, slots, mapper, hmade⟩ := exists_made_of_openSource h
  obtain ⟨_, onResult, s₁, -, hopened, -⟩ := opened_of_openSource h
  obtain rfl : j = i := by
    rw [hmade] at hi
    exact Option.some.inj hi
  rw [hmade]
  refine .made cursor.current slots mapper fun c hc => ?_
  unfold Driver.openResult at hopened
  split at hopened
  · exact ((cursors_of_openCursor hopened).2 c (congrArg Except.ok hc)).2
  · have hnone : none = cursor.current := Except.ok.inj (congrArg Prod.fst hopened)
    rw [← hnone] at hc
    cases hc

theorem ResultCursor.Reachable.represents {i : StatementId} {cursor : ResultCursor τ}
    {t : List Exchange} {s : Session (Traced σ)} (h : cursor.Reachable d i t s) :
    Represents i cursor t s.cursors := by
  induction h with
  | made current slots mapper h => exact .made slots mapper h
  | @turn α cursor cursor' t u s s' g turn h hturn hu ih =>
      obtain ⟨v, g', cursor'', s'', hr, hv, hrepresents⟩ := ih.takeTurn (d := d) turn
      cases hturn.symm.trans hr
      rwa [hu.unique hv]
  | interlude h hs ih => exact ih.mono hs

section

variable {α : Type} {i : StatementId} {cursor cursor' : ResultCursor τ} {t : List Exchange}
  {s s' : Session (Traced σ)} {turn : Turn α} {g : Given (Traced σ) α}

theorem Passed.of_turn (h : cursor.Reachable d i t s)
    (hturn : d.traced.takeTurn turn cursor s = ((g, cursor'), s')) :
    Passed s s' (s'.trace.drop s.trace.length) := by
  obtain ⟨u, g', cursor'', s'', hr, hu, -⟩ := h.represents.takeTurn (d := d) turn
  cases hturn.symm.trans hr
  rwa [← hu.eq_drop]

theorem ResultCursor.Reachable.after_turn (h : cursor.Reachable d i t s)
    (hturn : d.traced.takeTurn turn cursor s = ((g, cursor'), s')) :
    cursor'.Reachable d i (t ++ s'.trace.drop s.trace.length) s' :=
  .turn turn h hturn (.of_turn h hturn)

end

theorem Row.Fits.readers {row : Row} (h : row.Fits) {index : Nat}
    (hindex : row.checkIndex index = .ok ()) :
    ∃ column, row.columns[index - 1]? = some column ∧
      row.readers[index - 1]? = some column.type.reader := by
  have hrange : index - 1 < row.columns.length := by
    unfold checkIndex columnCount at hindex
    split at hindex
    · cases hindex
    · rename_i hout
      simp only [Bool.or_eq_true, decide_eq_true_eq, not_or] at hout
      omega
  refine ⟨row.columns[index - 1], List.getElem?_eq_getElem hrange, ?_⟩
  rw [show row.readers = row.columns.map (·.type.reader) from congrArg Row.readers h]
  rw [List.getElem?_map, List.getElem?_eq_getElem hrange]
  rfl

/-- In each state that it can reach a cursor keeps what the set that it is on has reported, and has
a reader for each column that it may be asked for. It is closed exactly if it has no statement any
more, and then holds no cursor. Its next move gives the row that it comes to. -/
theorem reachable_represents {i : StatementId} {cursor : ResultCursor τ} {t : List Exchange}
    {s : Session (Traced σ)} (h : cursor.Reachable d i t s) :
    Represents i cursor t s.cursors ∧
    (cursor.isClosed = true ↔ cursor.statement = none) ∧
    (cursor.isClosed = true → cursor.current = none) ∧
    (∀ row index, cursor.row = some row → row.checkIndex index = .ok () →
      ∃ column, row.columns[index - 1]? = some column ∧
        row.readers[index - 1]? = some column.type.reader) ∧
    ∃ u r cursor' s', d.traced.nextRow cursor s = ((r, cursor'), s') ∧ Passed s s' u ∧
      Presents t u r := by
  have hrepresents := h.represents
  obtain ⟨u, r, cursor', s', hr, hu, -, hpresents⟩ := hrepresents.nextRow (d := d)
  exact ⟨hrepresents, hrepresents.sound.closed_iff,
    fun hclosed => (hrepresents.released hclosed).2.1,
    fun row _ hrow hindex => (hrepresents.fits row hrow).readers hindex,
    u, r, cursor', s', hr, hu, hpresents⟩

/-- A set of other columns, with a result that is no set between, is described anew. -/
theorem reachable_represents_two_sets :
    ∃ (s s₁ s₂ s₃ : Session (Traced Scripted)) (cursor cursor' : ResultCursor Value)
      (g g' : Given (Traced Scripted) RowMap) (t u : List Exchange),
      s.database.database.queue = [.ok {
        results := [some ⟨[⟨"NAME", .varChar⟩], [[.value (.text "A")]]⟩, none,
          some ⟨[⟨"ID", .integer⟩], [[.value (.int 1)]]⟩] }] ∧
      (Scripted.driver.traced.openSource {} (.query "select" [] : Source Value)).run s =
        (.ok (.ofStatement ⟨1⟩ (some ⟨1⟩)), s₁) ∧
      Scripted.driver.traced.takeTurn (.next Row.toMap) (.ofStatement ⟨1⟩ (some ⟨1⟩)) s₁ =
        ((g, cursor), s₂) ∧ Passed s₁ s₂ t ∧
      Scripted.driver.traced.takeTurn (.next Row.toMap) cursor s₂ = ((g', cursor'), s₃) ∧
      Passed s₂ s₃ u ∧
      (t ++ u).any (·.stepsOn ⟨2⟩) = true ∧
      cursor'.row = some (.ofColumns [⟨"ID", .integer⟩]) ∧
      Represents ⟨1⟩ cursor' (t ++ u) s₃.cursors ∧
      (cursor'.isClosed = true ↔ cursor'.statement = none) ∧
      (cursor'.isClosed = true → cursor'.current = none) ∧
      (∀ row index, cursor'.row = some row → row.checkIndex index = .ok () →
        ∃ column, row.columns[index - 1]? = some column ∧
          row.readers[index - 1]? = some column.type.reader) ∧
      ∃ v r cursor'' s₄, Scripted.driver.traced.nextRow cursor' s₃ = ((r, cursor''), s₄) ∧
        Passed s₃ s₄ v ∧ Presents (t ++ u) v r := by
  refine ⟨{ database := { database := { queue := _ } } }, ?_, ?_, ?_, ?_, ?_, ?_, ?_, _, _,
    rfl, ?opened, ?first, .of_turn (.of_openSource ?opened rfl) ?first, ?second,
    .of_turn (.after_turn (.of_openSource ?opened rfl) ?first) ?second, ?_, ?_,
    reachable_represents (.after_turn (.after_turn (.of_openSource ?opened rfl) ?first) ?second)⟩
  case opened => exact rfl
  case first => exact rfl
  case second => exact rfl
  all_goals decide +kernel

end SqlGateway
