import SqlGateway.Proofs.Walk.Databases
import SqlGateway.Proofs.Walk.Source
import SqlGateway.Proofs.Walk.Tally

/-!
# Every row of every result

A walk delivers the rows of all the results of an execution, in order and each with the columns of
its own set, whatever results are empty or no sets of rows. It moves on to a row only when it
delivers it, comes to its end only after the last, and is silent once it is over. A mapping is such
a walk (`Driver.mapRows_takeTurns`).
-/

namespace SqlGateway

open Database

variable {σ τ κ α : Type} {d : Driver σ}

/-- A turn in which the cursor or the mapper has failed. -/
def Given.isFailure : Given σ α → Bool
  | .unmapped .. | .failed _ => true
  | .row .. | .ended => false

namespace ResultView

/-- The rows that a walk has come to, each as it was seen. -/
def delivered (view : ResultView d κ) (given : List (Given σ α)) : List (Row × Option (List κ)) :=
  given.filterMap view.seen

/-- A walk of some turns over these rows, with this trace, and what it gave. -/
structure Walked (view : ResultView d.traced κ) (i : StatementId) (rows : List (SeenRow κ))
    (t : List Exchange) (turns : Nat) (given : List (Given (Traced σ) α)) : Prop where
  /-- None is skipped or repeated. -/
  in_order : view.delivered given <+: rows.map (Prod.map id some)
  /-- None is read ahead, though one is lost if the driver fails to describe it. -/
  tally : steps t = (view.delivered given).length ∨
    steps t = (view.delivered given).length + 1 ∧ ∃ e, .failed e ∈ given ∧ Refused t e
  closes : ClosesEnded t
  complete : (∀ g ∈ given, g.isFailure = false) → .ended ∈ given →
    view.delivered given = rows.map (Prod.map id some) ∧ .call (.moreResults i) (.ok false) ∈ t
  /-- Where nothing fails there are as many rows as there are turns, as long as there are rows. -/
  whole : (∀ x ∈ t, ¬ x.Failed) → (∀ current seen e, .unmapped current seen e ∉ given) →
    view.delivered given = (rows.map (Prod.map id some)).take turns

variable {view : ResultView d κ}

/-! ## What is delivered -/

theorem delivered_cons (view : ResultView d κ) (g : Given σ α) (given : List (Given σ α)) :
    view.delivered (g :: given) = (view.seen g).toList ++ view.delivered given := by
  unfold delivered
  rw [List.filterMap_cons]
  cases view.seen g <;> rfl

theorem delivered_replicate_ended (view : ResultView d κ) (n : Nat) :
    view.delivered (List.replicate n (.ended : Given σ α)) = [] := by
  refine List.filterMap_eq_nil_iff.mpr fun g hg => ?_
  rw [List.eq_of_mem_replicate hg]
  rfl

/-- What a last turn and the silence after it deliver. -/
theorem delivered_last (view : ResultView d κ) (g : Given σ α) (n : Nat) :
    view.delivered (g :: List.replicate n .ended) = (view.seen g).toList := by
  rw [delivered_cons, delivered_replicate_ended, List.append_nil]

theorem seen_of_reached {g : Given σ α} {current : CurrentRow} {seen : Session σ} {cells : List κ}
    (hg : g.reached = some (current, seen))
    (h : (view.cursor seen.database current.cursor).row = some cells) :
    view.seen g = some (current.row, some cells) := by
  unfold ResultView.seen
  rw [hg, Option.map_some, h]

theorem length_seen (view : ResultView d κ) (g : Given σ α) :
    (view.seen g).toList.length = g.reached.toList.length := by
  cases g <;> rfl

end ResultView

namespace ResultView.Walked

variable {view : ResultView d.traced κ} {i : StatementId} {rows : List (SeenRow κ)}
  {t u : List Exchange} {n : Nat} {given : List (Given (Traced σ) α)}

theorem nil : view.Walked i rows [] 0 ([] : List (Given (Traced σ) α)) where
  in_order := List.nil_prefix
  tally := .inl rfl
  closes := .nil
  complete _ h := absurd h List.not_mem_nil
  whole _ _ := rfl

/-- A row before the rest of the walk. -/
theorem after_row {cursor cursor' : ResultCursor τ} {current : CurrentRow}
    {seen : Session (Traced σ)} {read : Except Error α} {cells : List κ}
    (htakes : SqlGateway.Takes i cursor t (.row current seen read) cursor')
    (hrow : (view.cursor seen.database current.cursor).row = some cells)
    (h : view.Walked i rows u n given) :
    view.Walked i ((current.row, cells) :: rows) (t ++ u) (n + 1)
      (.row current seen read :: given) := by
  have hseen : view.delivered (.row current seen read :: given) =
      (current.row, some cells) :: view.delivered given := by
    rw [delivered_cons, seen_of_reached rfl hrow]
    rfl
  have hsteps : steps t = 1 := htakes.steps.elim id fun h => h.1
  constructor
  case in_order =>
    rw [hseen]
    exact List.cons_prefix_cons.mpr ⟨rfl, h.in_order⟩
  case tally =>
    rw [hseen, steps_append, hsteps, List.length_cons]
    obtain hu | ⟨hu, e, he, hrefused⟩ := h.tally
    · exact .inl (by omega)
    · exact .inr ⟨by omega, e, List.mem_cons_of_mem _ he, hrefused.after t⟩
  case closes => exact htakes.closesEnded h.closes nofun
  case complete =>
    intro hsound hended
    obtain ⟨-, hsound⟩ := List.forall_mem_cons.mp hsound
    obtain hg | hended := List.mem_cons.mp hended
    · cases hg
    · obtain ⟨hall, hmore⟩ := h.complete hsound hended
      rw [hseen, hall]
      exact ⟨rfl, List.mem_append_right _ hmore⟩
  case whole =>
    intro hcalls hmapped
    have hall := h.whole (fun x hx => hcalls x (List.mem_append_right _ hx))
      fun current seen e hg => hmapped current seen e (List.mem_cons_of_mem _ hg)
    rw [hseen, hall]
    rfl

/-- The last turn that can give anything. -/
theorem of_last {cursor cursor' : ResultCursor τ} {s : Session (Traced σ)}
    {g : Given (Traced σ) α} (htakes : SqlGateway.Takes i cursor t g cursor')
    (hview : view.Takes i rows cursor s.database cursor' g) (hlast : g.isLast = true) (n : Nat) :
    view.Walked i rows t (n + 1) (g :: List.replicate n .ended) := by
  constructor
  case in_order =>
    rw [delivered_last]
    cases hview with
    | row => cases hlast
    | unmapped hrow hrows =>
        rw [hrows, seen_of_reached rfl hrow]
        exact List.cons_prefix_cons.mpr ⟨rfl, List.nil_prefix⟩
    | ended | failed => exact List.nil_prefix
  case tally =>
    rw [delivered_last, length_seen]
    obtain hsteps | ⟨hsteps, e, rfl, hrefused⟩ := htakes.steps
    · exact .inl hsteps
    · exact .inr ⟨hsteps, e, List.mem_cons_self, hrefused⟩
  case closes =>
    have hcloses := htakes.closesEnded .nil fun _ => rfl
    rwa [List.append_nil] at hcloses
  case complete =>
    intro hsound hended
    obtain ⟨hg, -⟩ := List.forall_mem_cons.mp hsound
    rw [delivered_last]
    cases hview with
    | row => cases hlast
    | unmapped | failed => cases hg
    | ended hrows =>
        rw [hrows]
        cases htakes with
        | ended hm => exact ⟨rfl, hm.mem_of_none⟩
  case whole =>
    intro hcalls hmapped
    rw [delivered_last]
    cases hview with
    | row => cases hlast
    | unmapped => exact absurd List.mem_cons_self (hmapped _ _ _)
    | ended hrows =>
        rw [hrows]
        rfl
    | failed hkept =>
        have hrows : rows = [] := by
          cases htakes with
          | failed hm =>
              obtain ⟨x, hx, hfailed⟩ | hfired := hm.mem_of_error
              · exact absurd hfailed (hcalls x hx)
              · exact hkept.resolve_left hfired
        rw [hrows]
        rfl

end ResultView.Walked

/-! ## Walks -/

theorem takeTurns_walked {view : ResultView d.traced κ} (turns : List (Turn α))
    {cursor cursor' : ResultCursor τ} {i : StatementId} {s s' : Session (Traced σ)}
    {given : List (Given (Traced σ) α)} (hi : cursor.On i)
    (hd : view.Described s.database cursor)
    (h : d.traced.takeTurns cursor s turns = ((given, cursor'), s')) :
    ∃ t, Passed s s' t ∧
      view.Walked i (view.left s.database i cursor.current) t turns.length given ∧
      ((∃ g ∈ given, g.isLast = true) → cursor'.closed = true) := by
  induction turns generalizing cursor s given with
  | nil =>
      cases h
      refine ⟨[], .refl _, .nil, ?_⟩
      rintro ⟨g, hg, -⟩
      exact absurd hg List.not_mem_nil
  | cons turn turns ih =>
      obtain ⟨t, g, cursor₁, s₁, hturn, ht, htakes⟩ := takeTurn_takes (d := d) turn hi s
      have hview := takeTurn_takes_view turn hi hd hturn
      simp only [Driver.takeTurns, hturn] at h
      by_cases hlast : g.isLast = true
      · have hclosed := (htakes.spent hlast).closed
        rw [Driver.takeTurns_of_closed hclosed] at h
        cases h
        exact ⟨t, ht, .of_last htakes hview hlast _, fun _ => hclosed⟩
      · generalize hrest : d.traced.takeTurns cursor₁ s₁ turns = result at h
        obtain ⟨⟨rest, cursor₂⟩, s₂⟩ := result
        cases h
        cases hview with
        | row hrow hrows hd₁ =>
            obtain ⟨u, hu, hwalked, hsilent⟩ := ih (htakes.on_of_row rfl hi) hd₁ hrest
            rw [hrows]
            refine ⟨t ++ u, ht.trans hu, hwalked.after_row htakes hrow, ?_⟩
            rintro ⟨g, hg, hglast⟩
            obtain rfl | hg := List.mem_cons.mp hg
            · cases hglast
            · exact hsilent ⟨g, hg, hglast⟩
        | unmapped | ended | failed => exact absurd rfl hlast

/-- Whatever turns a caller takes with a cursor, it is given the rows of all results one after
another, each with the columns of its own result, and nothing is read ahead. Once it was told that
there are no more, every further turn says the same, without asking the driver for anything. -/
theorem walk_delivers_results (view : ResultView d κ) {options : Options} {source : Source τ}
    {turns : List (Turn α)} {s s' s'' : Session (Traced σ)} {cursor cursor' : ResultCursor τ}
    {given : List (Given (Traced σ) α)}
    (hopen : (d.traced.openSource options source).run s = (.ok cursor, s'))
    (hwalk : d.traced.takeTurns cursor s' turns = ((given, cursor'), s'')) :
    ∃ i onResult s₁ t,
      (d.traced.executeSource options source).run s = (.ok (i, onResult), s₁) ∧
      Passed s' s'' t ∧
      view.traced.Walked i (rowsOf (view.produced s₁.database.database i onResult)) t turns.length
        given ∧
      ((∃ g ∈ given, g.isLast = true) → ∀ more : List (Turn α),
        d.traced.takeTurns cursor' s'' more =
          ((List.replicate more.length .ended, cursor'), s'')) := by
  obtain ⟨i, onResult, s₁, hexecuted, hopened, hi, hrow⟩ := opened_of_openSource hopen
  have hd : view.traced.Described s'.database cursor :=
    ⟨by rw [hrow]; exact nofun, by rw [hrow]; exact nofun⟩
  obtain ⟨t, ht, hwalked, hsilent⟩ := takeTurns_walked turns hi hd hwalk
  rw [left_of_openResult hopened] at hwalked
  refine ⟨i, onResult, s₁, t, hexecuted, ht, hwalked, fun hlast more => ?_⟩
  exact Driver.takeTurns_of_closed (hsilent hlast) more s''

/-- An empty set and a result that is none are passed over for the one row that there is. -/
theorem walk_delivers_results_one_row :
    ∃ (s s' s'' : Session (Traced Scripted)) (cursor cursor' : ResultCursor Value)
      (given : List (Given (Traced Scripted) RowMap)),
      s.database.database.queue = [.ok {
        results := [some ⟨[⟨"NAME", .varChar⟩], []⟩, none,
          some ⟨[⟨"ID", .integer⟩], [[.value (.int 1)]]⟩] }] ∧
      (Scripted.driver.traced.openSource {} (.query "select" [])).run s = (.ok cursor, s') ∧
      Scripted.driver.traced.takeTurns cursor s' [.map Row.toMap, .map Row.toMap] =
        ((given, cursor'), s'') ∧
      Scripted.view.traced.delivered given =
        [(Row.ofColumns [⟨"ID", .integer⟩], some [.value (.int 1)])] ∧
      ∃ i onResult s₁ t,
        (Scripted.driver.traced.executeSource {} (.query "select" [] : Source Value)).run s =
          (.ok (i, onResult), s₁) ∧
        Passed s' s'' t ∧
        Scripted.view.traced.Walked i
          (rowsOf (Scripted.view.produced s₁.database.database i onResult)) t 2 given ∧
        ((∃ g ∈ given, g.isLast = true) → ∀ more : List (Turn RowMap),
          Scripted.driver.traced.takeTurns cursor' s'' more =
            ((List.replicate more.length .ended, cursor'), s'')) := by
  refine ⟨{ database := { database := { queue := _ } } }, ?_, ?_, ?_, ?_, ?_, rfl,
    ?opened, ?walk, ?_,
    walk_delivers_results Scripted.view ?opened ?walk⟩
  case opened => exact rfl
  case walk => exact rfl
  decide +kernel

end SqlGateway
