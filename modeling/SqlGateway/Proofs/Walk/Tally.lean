import SqlGateway.Proofs.Walk.Passage

/-!
# Steps and ends of sets

What the trace of a walk says of its rows without a look at them: how many there were to move on to,
and that a set that has come to its end is closed before another result is asked for.
-/

namespace SqlGateway

variable {σ τ α : Type}

/-! ## Exchanges -/

namespace Exchange

/-- A move to a row. -/
def isStep : Exchange → Bool
  | .call (.next _) (.ok moved) => moved
  | _ => false

/-- The end of a set of rows. -/
def IsEnd : Exchange → Prop
  | .call (.next _) (.ok false) => True
  | _ => False

/-- A question for a further result. -/
def AsksMore : Exchange → Prop
  | .call (.moreResults _) _ => True
  | _ => False

def Failed : Exchange → Prop
  | .call _ (.error _) => True
  | _ => False

/-- An exchange that moves on neither to a row nor to a result. -/
def Aside : Exchange → Prop
  | .call (.next _) _ | .call (.moreResults _) _ => False
  | _ => True

variable {x : Exchange}

theorem OfRow.aside (h : x.OfRow) : x.Aside := by
  unfold OfRow at h
  split at h
  case h_5 => exact h.elim
  all_goals exact trivial

theorem Aside.not_isEnd (h : x.Aside) : ¬ x.IsEnd := by
  unfold IsEnd
  split
  · exact fun _ => h
  · exact id

theorem Aside.not_asksMore (h : x.Aside) : ¬ x.AsksMore := by
  unfold AsksMore
  split
  · exact fun _ => h
  · exact id

theorem Aside.isStep (h : x.Aside) : x.isStep = false := by
  unfold Exchange.isStep
  split
  · exact h.elim
  · rfl

end Exchange

open Exchange

theorem aside_of_ofRow {t : List Exchange} (h : ∀ x ∈ t, x.OfRow) : ∀ x ∈ t, x.Aside :=
  fun x hx => (h x hx).aside

theorem Releases.aside {i : StatementId} {c : Option CursorId} {t : List Exchange}
    (h : Releases i c t) : ∀ x ∈ t, x.Aside := by
  cases h with
  | both c a b =>
      exact List.forall_mem_cons.mpr ⟨trivial, List.forall_mem_singleton.mpr trivial⟩
  | statement b => exact List.forall_mem_singleton.mpr trivial

theorem OutReplays.aside {i : StatementId} {p : Reading OutRead OutRead.Answer α}
    {t : List Exchange} {a : α} (h : OutReplays i p t a) : ∀ x ∈ t, x.Aside := by
  induction h with
  | done a => exact fun _ hx => absurd hx List.not_mem_nil
  | ask h ih => exact List.forall_mem_cons.mpr ⟨trivial, ih⟩

/-! ## Ends of sets -/

/-- Where a set has come to its end, it is closed next, or no further result is asked for. -/
def ClosesEnded (t : List Exchange) : Prop :=
  ∀ u v c, t = u ++ .call (.next c) (.ok false) :: v →
    (∃ v', v = .call (.closeCursor c) (.ok ()) :: v') ∨ ∀ x ∈ v, ¬ x.AsksMore

namespace ClosesEnded

variable {t u : List Exchange} {x : Exchange}

theorem of_not_asksMore (h : ∀ x ∈ t, ¬ x.AsksMore) : ClosesEnded t := by
  intro u v c ht
  refine .inr fun x hx => h x ?_
  rw [ht]
  exact List.mem_append_right _ (List.mem_cons_of_mem _ hx)

theorem nil : ClosesEnded [] :=
  of_not_asksMore fun _ hx => absurd hx List.not_mem_nil

theorem cons (h : ClosesEnded t) (hx : ¬ x.IsEnd) : ClosesEnded (x :: t) := by
  intro u v c ht
  obtain ⟨-, heq⟩ | ⟨u', -, ht'⟩ := List.cons_eq_append_iff.mp ht
  · obtain ⟨rfl, -⟩ := List.cons.inj heq
    exact absurd trivial hx
  · exact h u' v c ht'

theorem closed (h : ClosesEnded t) (c : CursorId) :
    ClosesEnded (.call (.next c) (.ok false) :: .call (.closeCursor c) (.ok ()) :: t) := by
  intro u v c' ht
  obtain ⟨-, heq⟩ | ⟨u', -, ht'⟩ := List.cons_eq_append_iff.mp ht
  · obtain ⟨hx, rfl⟩ := List.cons.inj heq
    cases hx
    exact .inl ⟨t, rfl⟩
  · exact h.cons id u' v c' ht'

theorem after_aside (h : ClosesEnded u) (ht : ∀ x ∈ t, x.Aside) : ClosesEnded (t ++ u) := by
  induction t with
  | nil => exact h
  | cons x t ih =>
      obtain ⟨hx, ht⟩ := List.forall_mem_cons.mp ht
      exact (ih ht).cons hx.not_isEnd

end ClosesEnded

theorem not_asksMore_of_aside {t : List Exchange} (h : ∀ x ∈ t, x.Aside) :
    ∀ x ∈ t, ¬ x.AsksMore :=
  fun x hx => (h x hx).not_asksMore

/-- A search closes what it has read to the end, and after a failure it asks for nothing. -/
theorem Seeks.closesEnded {i : StatementId} {c : Option CursorId} {switched : Bool}
    {t u : List Exchange} {r : Sought} (h : Seeks i c switched t r) (hu : ClosesEnded u)
    (hfailed : ∀ f held, r = .failed f held → ∀ x ∈ u, ¬ x.AsksMore) : ClosesEnded (t ++ u) := by
  induction h with
  | found | unmoved | last | unanswered => exact hu.cons id
  | unopened => exact (hu.cons id).cons id
  | unclosed c switched f =>
      refine .of_not_asksMore (List.forall_mem_cons.mpr ⟨id, List.forall_mem_cons.mpr ⟨id, ?_⟩⟩)
      exact hfailed _ _ rfl
  | closed c h ih => exact (ih hfailed).closed c
  | passed c h ih | opened c h ih => exact ((ih hfailed).cons id).cons id

theorem Moves.closesEnded {i : StatementId} {cursor cursor' : ResultCursor τ}
    {t u : List Exchange} {r : Except Error (Option CurrentRow)} (h : Moves i cursor t r cursor')
    (hu : ClosesEnded u)
    (hlast : (∀ current, r ≠ .ok (some current)) → ∀ x ∈ u, ¬ x.AsksMore) :
    ClosesEnded (t ++ u) := by
  cases h with
  | row hs hv =>
      rw [List.append_assoc]
      exact hs.closesEnded (hu.after_aside (aside_of_ofRow hv)) nofun
  | undescribed hs hv =>
      rw [List.append_assoc, List.cons_append]
      exact hs.closesEnded ((hu.after_aside hv.aside).cons id) nofun
  | failed hs hv =>
      rw [List.append_assoc]
      refine hs.closesEnded (hu.after_aside hv.aside) fun _ _ _ => ?_
      exact List.forall_mem_append.mpr ⟨not_asksMore_of_aside hv.aside, hlast nofun⟩
  | finished hs hh =>
      rw [List.append_assoc]
      exact hs.closesEnded (hu.cons id) nofun
  | served hs hh hv =>
      rw [List.append_assoc, List.append_assoc]
      exact hs.closesEnded ((hu.cons id).after_aside hv.aside) nofun

theorem Takes.closesEnded {i : StatementId} {cursor cursor' : ResultCursor τ}
    {t u : List Exchange} {g : Given (Traced σ) α} (h : Takes i cursor t g cursor')
    (hu : ClosesEnded u) (hlast : g.isLast = true → u = []) : ClosesEnded (t ++ u) := by
  have none (hg : g.isLast = true) : ∀ x ∈ u, ¬ x.AsksMore := by
    rw [hlast hg]
    exact fun _ hx => absurd hx List.not_mem_nil
  cases h with
  | row hm hv =>
      rw [List.append_assoc]
      exact hm.closesEnded (hu.after_aside (aside_of_ofRow hv)) fun hne => absurd rfl (hne _)
  | unmapped hm hv hw =>
      rw [List.append_assoc, List.append_assoc]
      refine hm.closesEnded ((hu.after_aside hw.aside).after_aside (aside_of_ofRow hv)) ?_
      exact fun hne => absurd rfl (hne _)
  | ended hm | failed hm => exact hm.closesEnded hu fun _ => none rfl

/-! ## Steps -/

/-- How many moves to a row there were. -/
def steps (t : List Exchange) : Nat :=
  t.countP Exchange.isStep

@[simp] theorem steps_append (t u : List Exchange) : steps (t ++ u) = steps t + steps u :=
  List.countP_append

theorem steps_of_aside {t : List Exchange} (h : ∀ x ∈ t, x.Aside) : steps t = 0 := by
  refine List.countP_eq_zero.mpr fun x hx => ?_
  rw [(h x hx).isStep]
  exact Bool.false_ne_true

theorem Seeks.steps_of_row {i : StatementId} {c : Option CursorId} {switched : Bool}
    {t : List Exchange} {c' : CursorId} {switched' : Bool}
    (h : Seeks i c switched t (.row c' switched')) : steps t = 1 := by
  generalize hr : Sought.row c' switched' = r at h
  induction h with
  | found => rfl
  | closed c h ih | passed c h ih | opened c h ih => exact ih hr
  | unmoved | unclosed | last | unanswered | unopened => cases hr

theorem Seeks.steps_of_none {i : StatementId} {c : Option CursorId} {switched : Bool}
    {t : List Exchange} {r : Sought} (h : Seeks i c switched t r)
    (hr : ∀ c switched, r ≠ .row c switched) : steps t = 0 := by
  induction h with
  | found => exact absurd rfl (hr _ _)
  | closed c h ih | passed c h ih | opened c h ih => exact ih hr
  | unmoved | unclosed | last | unanswered | unopened => rfl

/-- A failure to describe a row that a move had come to. -/
def Refused (t : List Exchange) (e : Error) : Prop :=
  ∃ c f, .call (.columns c) (.error f) ∈ t ∧ e = .ofFailure f

theorem Refused.after {u : List Exchange} {e : Error} (h : Refused u e) (t : List Exchange) :
    Refused (t ++ u) e := by
  obtain ⟨c, f, hmem, he⟩ := h
  exact ⟨c, f, List.mem_append_right _ hmem, he⟩

theorem Moves.steps_of_row {i : StatementId} {cursor cursor' : ResultCursor τ}
    {t : List Exchange} {current : CurrentRow} (h : Moves i cursor t (.ok (some current)) cursor') :
    steps t = 1 := by
  obtain ⟨u, v, switched, rfl, hs, hv, -⟩ := h.of_row
  rw [steps_append, hs.steps_of_row, steps_of_aside (aside_of_ofRow hv)]

/-- Without a row a move has come to none either, unless the driver failed to describe it. -/
theorem Moves.steps_of_none {i : StatementId} {cursor cursor' : ResultCursor τ}
    {t : List Exchange} {r : Except Error (Option CurrentRow)} (h : Moves i cursor t r cursor')
    (hr : ∀ current, r ≠ .ok (some current)) :
    steps t = 0 ∨ steps t = 1 ∧ ∃ e, r = .error e ∧ Refused t e := by
  have without {u v : List Exchange} (hu : steps u = 0) (hv : ∀ x ∈ v, x.Aside) :
      steps (u ++ v) = 0 := by
    rw [steps_append, hu, steps_of_aside hv]
  cases h with
  | row => exact absurd rfl (hr _)
  | undescribed hs hu =>
      refine .inr ⟨?_, _, rfl, _, _, List.mem_append_right _ List.mem_cons_self, rfl⟩
      rw [steps_append, hs.steps_of_row, steps_of_aside]
      exact List.forall_mem_cons.mpr ⟨trivial, hu.aside⟩
  | failed hs hu => exact .inl (without (hs.steps_of_none nofun) hu.aside)
  | finished hs hh =>
      exact .inl (without (hs.steps_of_none nofun) (List.forall_mem_singleton.mpr trivial))
  | served hs hh hu =>
      refine .inl (without (hs.steps_of_none nofun) (List.forall_mem_append.mpr ⟨hu.aside, ?_⟩))
      exact List.forall_mem_singleton.mpr trivial

theorem Takes.steps {i : StatementId} {cursor cursor' : ResultCursor τ} {t : List Exchange}
    {g : Given (Traced σ) α} (h : Takes i cursor t g cursor') :
    steps t = g.reached.toList.length ∨ steps t = 1 ∧ ∃ e, g = .failed e ∧ Refused t e := by
  cases h with
  | row hm hu =>
      left
      rw [steps_append, hm.steps_of_row, steps_of_aside (aside_of_ofRow hu)]
      rfl
  | unmapped hm hu hv =>
      left
      rw [steps_append, steps_append, hm.steps_of_row, steps_of_aside (aside_of_ofRow hu),
        steps_of_aside hv.aside]
      rfl
  | ended hm =>
      obtain hsteps | ⟨-, e, he, -⟩ := hm.steps_of_none nofun
      · exact .inl hsteps
      · cases he
  | failed hm =>
      obtain hsteps | ⟨hsteps, e', he, hrefused⟩ := hm.steps_of_none nofun
      · exact .inl hsteps
      · cases he
        exact .inr ⟨hsteps, _, rfl, hrefused⟩

/-! ## Failures -/

theorem Seeks.mem_of_failed {i : StatementId} {c : Option CursorId} {switched : Bool}
    {t : List Exchange} {f : Failure} {held : Option CursorId}
    (h : Seeks i c switched t (.failed f held)) : ∃ x ∈ t, x.Failed := by
  generalize hr : Sought.failed f held = r at h
  induction h with
  | found | last => cases hr
  | unmoved | unanswered => exact ⟨_, List.mem_cons_self, trivial⟩
  | unclosed | unopened => exact ⟨_, List.mem_cons_of_mem _ List.mem_cons_self, trivial⟩
  | closed c h ih | passed c h ih | opened c h ih =>
      obtain ⟨x, hx, hfailed⟩ := ih hr
      exact ⟨x, List.mem_cons_of_mem _ (List.mem_cons_of_mem _ hx), hfailed⟩

/-- A move fails because the driver has failed or because the handler has. -/
theorem Moves.mem_of_error {i : StatementId} {cursor cursor' : ResultCursor τ}
    {t : List Exchange} {e : Error} (h : Moves i cursor t (.error e) cursor') :
    (∃ x ∈ t, x.Failed) ∨ cursor'.handler ≠ cursor.handler := by
  generalize hr : (Except.error e : Except Error (Option CurrentRow)) = r at h
  cases h with
  | row | finished => cases hr
  | undescribed =>
      exact .inl ⟨_, List.mem_append_right _ List.mem_cons_self, trivial⟩
  | failed hs hu =>
      obtain ⟨x, hx, hfailed⟩ := hs.mem_of_failed
      exact .inl ⟨x, List.mem_append_left _ hx, hfailed⟩
  | served hs hh hu =>
      refine .inr ?_
      rw [hh]
      exact nofun

theorem Moves.mem_of_none {i : StatementId} {cursor cursor' : ResultCursor τ}
    {t : List Exchange} (h : Moves i cursor t (.ok none) cursor') :
    .call (.moreResults i) (.ok false) ∈ t := by
  generalize hr : (Except.ok none : Except Error (Option CurrentRow)) = r at h
  cases h with
  | row | undescribed | failed => cases hr
  | finished hs | served hs => exact List.mem_append_left _ hs.mem_of_exhausted

end SqlGateway
