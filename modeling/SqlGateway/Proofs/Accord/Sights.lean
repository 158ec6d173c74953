import SqlGateway.Client.Run
import SqlGateway.Proofs.Accord.Mirror

/-!
# What a client sees of a cursor

A cursor that a client keeps under a number is seen through the steps that name it. If what is left
to be fetched through it is mirrored by a cursor that another client keeps under the same number,
both clients see the same.
-/

namespace SqlGateway

variable {σ α β β' : Type} {d : Driver σ}

/-! ## Steps that name a cursor -/

/-- The number of the kept cursor that an operation works on. -/
def Operation.cursor? : Operation α → Option Nat
  | .next id _ | .isClosed id | .close id | .drop id | .maps id | .map id .. => some id
  | _ => none

/-- The number under which an operation keeps a new cursor. -/
def Operation.keeps? : Operation α → Option Nat
  | .select _ _ _ (.fetch (.keep id)) | .call _ _ _ _ (.fetch (.keep id))
  | .execute _ _ (.keep id) =>
    some id
  | _ => none

def Step.cursor? : Step σ α → Option Nat
  | .operation op => op.cursor?
  | _ => none

def Step.keeps? : Step σ α → Option Nat
  | .operation op => op.keeps?
  | _ => none

/-- What is seen of a cursor in a step: the reply, what the handler for output values gave in it,
and what has become of the handler. -/
structure Sight (α : Type) where
  reply : Except Refusal (Reply α)
  fired : List α
  handler : Option (OutHandler α)

namespace Client

/-- What a client sees of the cursor under the number `k` in the steps that name it. -/
def sights (d : Driver σ) (k : Nat) (client : Client σ α) : List (Step σ α) → List (Sight α)
  | [] => []
  | step :: steps =>
    let (reply, after) := client.step d step
    if step.cursor? = some k then
      ⟨reply, after.fired.drop client.fired.length, (after.cursors.get? k).map (·.handler)⟩ ::
        sights d k after steps
    else sights d k after steps

/-! ## Two clients -/

/-- The two clients keep `o` and `o'` under `k`, they have noted the same since they had noted `f`
and `f'`, and `P` holds of their sessions. -/
structure Facing (k : Nat) (f f' : List α) (o o' : Option (ResultCursor α))
    (P : Session σ → Session σ → Prop) (client client' : Client σ α) : Prop where
  left : client.cursors.get? k = o
  right : client'.cursors.get? k = o'
  keys : client.cursors.keys.Nodup
  keys' : client'.cursors.keys.Nodup
  sessions : P client.session client'.session
  fired : ∃ given, client.fired = f ++ given ∧ client'.fired = f' ++ given

/-- Both come to a result, and then `Q`, or both are refused for the same reason, and then `E`. -/
def Answered (Q : β → β' → Client σ α → Client σ α → Prop) (E : Client σ α → Client σ α → Prop) :
    Except Refusal β → Except Refusal β' → Client σ α → Client σ α → Prop
  | .ok b, .ok b', client, client' => Q b b' client client'
  | .error e, .error e', client, client' => e = e' ∧ E client client'
  | _, _, _, _ => False

/-- From clients with `P` two doings lead to answers and clients with `Q`, or to a refusal and
`E`. -/
def Parallel (P : Client σ α → Client σ α → Prop) (act : Doing σ α β) (act' : Doing σ α β')
    (Q : β → β' → Client σ α → Client σ α → Prop) (E : Client σ α → Client σ α → Prop) : Prop :=
  Abreast P act.run act'.run (Answered Q E)

namespace Parallel

variable {P : Client σ α → Client σ α → Prop} {E : Client σ α → Client σ α → Prop}

theorem pure {b : β} {b' : β'} {Q : β → β' → Client σ α → Client σ α → Prop}
    (h : ∀ c c', P c c' → Q b b' c c') :
    Parallel P (Pure.pure b : Doing σ α β) (Pure.pure b') Q E :=
  h

theorem weaken {act : Doing σ α β} {act' : Doing σ α β'}
    {Q Q' : β → β' → Client σ α → Client σ α → Prop} {E' : Client σ α → Client σ α → Prop}
    (h : Parallel P act act' Q E) (hQ : ∀ b b' c c', Q b b' c c' → Q' b b' c c')
    (hE : ∀ c c', E c c' → E' c c') : Parallel P act act' Q' E' := by
  refine Abreast.weaken h fun r r' c c' hs => ?_
  cases r with
  | ok b =>
      cases r' with
      | ok b' => exact hQ b b' c c' hs
      | error e' => exact hs.elim
  | error e =>
      cases r' with
      | ok b' => exact hs.elim
      | error e' => exact ⟨hs.1, hE c c' hs.2⟩

theorem bind {γ γ' : Type} {act : Doing σ α β} {act' : Doing σ α β'} {f : β → Doing σ α γ}
    {f' : β' → Doing σ α γ'} {Q : β → β' → Client σ α → Client σ α → Prop}
    {R : γ → γ' → Client σ α → Client σ α → Prop} (h : Parallel P act act' Q E)
    (hf : ∀ b b', Parallel (Q b b') (f b) (f' b') R E) :
    Parallel P (act >>= f) (act' >>= f') R E := by
  change Abreast P (act.run >>= ExceptT.bindCont f) (act'.run >>= ExceptT.bindCont f') _
  refine Abreast.bind h fun r r' => ?_
  cases r with
  | ok b =>
      cases r' with
      | ok b' => exact hf b b'
      | error e' => exact fun c c' hs => hs.elim
  | error e =>
      cases r' with
      | ok b' => exact fun c c' hs => hs.elim
      | error e' => exact fun c c' hs => hs

end Parallel

variable {k : Nat} {f f' : List α} {o o' : Option (ResultCursor α)}
  {P : Session σ → Session σ → Prop} {E : Client σ α → Client σ α → Prop}

theorem Facing.knowing {P' : Session σ → Session σ → Prop} {client client' : Client σ α}
    (h : Facing k f f' o o' P client client') (hP : P' client.session client'.session) :
    Facing k f f' o o' P' client client' :=
  ⟨h.left, h.right, h.keys, h.keys', hP, h.fired⟩

/-- What is known apart from the sessions may be used from the start. -/
theorem Parallel.assuming {p : Prop} {act : Doing σ α β} {act' : Doing σ α β'}
    {Q : β → β' → Client σ α → Client σ α → Prop}
    (h : p → Parallel (Facing k f f' o o' P) act act' Q E) :
    Parallel (Facing k f f' o o' fun s s' => p ∧ P s s') act act' Q E :=
  fun c c' hs => h hs.sessions.1 c c' (hs.knowing hs.sessions.2)

theorem parallel_plain {act act' : Plain σ β} {Q : β → β → Session σ → Session σ → Prop}
    (h : Abreast P act act' Q) :
    Parallel (Facing k f f' o o' P) (Client.plain act) (Client.plain act')
      (fun b b' => Facing k f f' o o' (Q b b')) E :=
  fun _ _ hs => ⟨hs.left, hs.right, hs.keys, hs.keys', h _ _ hs.sessions, hs.fired⟩

theorem parallel_act {act act' : Act σ Error β} {Q : β → Session σ → Session σ → Prop}
    {F : Session σ → Session σ → Prop} (h : Concur P act act' Q fun _ => F) :
    Parallel (Facing k f f' o o' P) (Client.act act) (Client.act act')
      (fun b b' c c' => b = b' ∧ Facing k f f' o o' (Q b) c c') (Facing k f f' o o' F) := by
  intro c c' hs
  have hr := h _ _ hs.sessions
  revert hr
  change _ → Answered _ _ ((act.run c.session).1.mapError .error)
    ((act'.run c'.session).1.mapError .error) { c with session := (act.run c.session).2 }
    { c' with session := (act'.run c'.session).2 }
  cases (act.run c.session).1 with
  | ok b =>
      cases (act'.run c'.session).1 with
      | ok b' => exact fun hr => ⟨hr.1, hs.left, hs.right, hs.keys, hs.keys', hr.2, hs.fired⟩
      | error e' => exact fun hr => hr.1.elim
  | error e =>
      cases (act'.run c'.session).1 with
      | ok b' => exact fun hr => hr.1.elim
      | error e' =>
          exact fun hr => ⟨congrArg Refusal.error hr.1, hs.left, hs.right, hs.keys, hs.keys', hr.2,
            hs.fired⟩

theorem parallel_accept {C : Client σ α → Client σ α → Prop} (result : Except Error β) :
    Parallel C (Client.accept result : Doing σ α β) (Client.accept result : Doing σ α β)
      (fun b b' c c' => b = b' ∧ C c c') C := by
  cases result with
  | ok b => exact fun c c' hs => ⟨rfl, hs⟩
  | error e => exact fun c c' hs => ⟨rfl, hs⟩

/-- The cursors that the clients keep under the number are alongside each other, if there are
any. -/
def Mirror.Kept (M : Mirror σ) :
    Option (ResultCursor α) → Option (ResultCursor α) → Session σ → Session σ → Prop
  | some a, some b, s, s' => M.Alongside a b s s'
  | none, none, _, _ => True
  | _, _, _, _ => False

/-- What the first session still has in common with the second where a cursor is over a statement is
all that counts. -/
theorem Mirror.Kept.imp {M : Mirror σ} {s s' t : Session σ} (h : Mirror.Kept M o o' s s')
    (hM : ∀ a i c', o = some a → a.statement = some i → M i a.current c' s s' →
      M i a.current c' t s') : Mirror.Kept M o o' t s' := by
  cases o with
  | none => cases o' <;> exact h
  | some a =>
      cases o' with
      | none => exact h
      | some b =>
          obtain hspent | ⟨i, hi, hb, hs⟩ := h
          · exact .inl hspent
          · exact .inr ⟨i, hi, hb, hM a i _ rfl hi.statement hs⟩

/-- Whatever the clients keep under the number is alongside. -/
def Faces (M : Mirror σ) (k : Nat) (f f' : List α) (client client' : Client σ α) : Prop :=
  ∃ o o', Facing k f f' o o' (Mirror.Kept M o o') client client'

variable {M : Mirror σ} {a b : ResultCursor α}

theorem Facing.faces {client client' : Client σ α}
    (h : Facing k f f' (some a) (some b) (M.Alongside a b) client client') :
    Faces M k f f' client client' :=
  ⟨_, _, h⟩

theorem Facing.faces_none {client client' : Client σ α}
    (h : Facing k f f' none none P client client') :
    Faces M k f f' client client' :=
  ⟨none, none, h.knowing trivial⟩

/-- As `Faces`, where nothing has been noted yet. -/
def Faced (M : Mirror σ) (k : Nat) (client client' : Client σ α) : Prop :=
  Faces M k client.fired client'.fired client client'

theorem Faces.faced {client client' : Client σ α} (h : Faces M k f f' client client') :
    Faced M k client client' := by
  obtain ⟨o, o', hs⟩ := h
  exact ⟨o, o', hs.left, hs.right, hs.keys, hs.keys', hs.sessions, [], (List.append_nil _).symm,
    (List.append_nil _).symm⟩

theorem Faces.drop_fired {client client' : Client σ α} (h : Faces M k f f' client client') :
    client.fired.drop f.length = client'.fired.drop f'.length := by
  obtain ⟨o, o', hs⟩ := h
  obtain ⟨given, hgiven, hgiven'⟩ := hs.fired
  rw [hgiven, hgiven', List.drop_left, List.drop_left]

theorem Faces.handler {client client' : Client σ α} (h : Faces M k f f' client client') :
    (client.cursors.get? k).map (·.handler) = (client'.cursors.get? k).map (·.handler) := by
  obtain ⟨o, o', hs⟩ := h
  rw [hs.left, hs.right]
  cases o with
  | none =>
      cases o' with
      | none => rfl
      | some b => exact hs.sessions.elim
  | some a =>
      cases o' with
      | none => exact hs.sessions.elim
      | some b =>
          rw [hs.sessions.eq]
          rfl

theorem Answered.same {F : Client σ α → Client σ α → Prop} {r r' : Except Refusal β}
    {client client' : Client σ α}
    (h : Answered (fun b b' c c' => b = b' ∧ F c c') F r r' client client') :
    r = r' ∧ F client client' := by
  cases r with
  | ok b =>
      cases r' with
      | ok b' => exact ⟨congrArg Except.ok h.1, h.2⟩
      | error e' => exact h.elim
  | error e =>
      cases r' with
      | ok b' => exact h.elim
      | error e' => exact ⟨congrArg Except.error h.1, h.2⟩

/-! ## What is done with a kept cursor -/

theorem parallel_cursor : Parallel (Faces M k f f') (Client.cursor k : Doing σ α (ResultCursor α))
    (Client.cursor k) (fun a b => Facing k f f' (some a) (some b) (M.Alongside a b))
    (Faces M k f f') := by
  rintro c c' ⟨o, o', hs⟩
  change Answered _ _ ((found (c.cursors.get? k) : Doing σ α (ResultCursor α)) c).1
    ((found (c'.cursors.get? k) : Doing σ α (ResultCursor α)) c').1
    ((found (c.cursors.get? k) : Doing σ α (ResultCursor α)) c).2
    ((found (c'.cursors.get? k) : Doing σ α (ResultCursor α)) c').2
  rw [hs.left, hs.right]
  cases o with
  | none =>
      cases o' with
      | none => exact ⟨rfl, none, none, hs⟩
      | some b => exact hs.sessions.elim
  | some a =>
      cases o' with
      | none => exact hs.sessions.elim
      | some b => exact hs

theorem parallel_takeCursor :
    Parallel (Faces M k f f') (Client.takeCursor k : Doing σ α (ResultCursor α))
      (Client.takeCursor k)
      (fun a b => Facing k f f' none none (M.Alongside a b)) (Faces M k f f') := by
  refine Parallel.bind parallel_cursor fun a b => ?_
  intro c c' hs
  have gone {r : Registry Nat (ResultCursor α)} (hr : r.keys.Nodup) : (r.remove k).get? k = none :=
    Registry.get?_eq_none.mpr (List.nodup_cons.mp (Registry.nodup_cons_remove hr k)).1
  exact ⟨gone hs.keys, gone hs.keys', Registry.nodup_remove hs.keys k,
    Registry.nodup_remove hs.keys' k, hs.sessions, hs.fired⟩

theorem parallel_putCursor (a b : ResultCursor α) :
    Parallel (Facing k f f' o o' P) (Client.putCursor k a) (Client.putCursor k b)
      (fun _ _ => Facing k f f' (some a) (some b) P) E :=
  fun c c' hs => ⟨Registry.get?_put k a c.cursors, Registry.get?_put k b c'.cursors,
    Registry.nodup_put hs.keys k a, Registry.nodup_put hs.keys' k b, hs.sessions, hs.fired⟩

theorem parallel_advance {move : ResultCursor α → Plain σ (β × ResultCursor α)}
    {Q : β × ResultCursor α → β × ResultCursor α → Session σ → Session σ → Prop}
    (hmove : Abreast (M.Alongside a b) (move a) (move b) Q)
    (hQ : ∀ r r' s s', Q r r' s s' → M.Alongside r.2 r'.2 s s') :
    Parallel (Facing k f f' o o' (M.Alongside a b)) (Client.advance a move) (Client.advance b move)
      (fun r r' => Facing k f f' o o' (Q r r')) E := by
  have delivered {a b : ResultCursor α} {s s' : Session σ} (h : M.Alongside a b s s') :
      b.delivered = a.delivered := by
    rw [h.eq]
    rfl
  suffices hall : b.delivered = a.delivered →
      Parallel (Facing k f f' o o' (M.Alongside a b)) (Client.advance a move)
        (Client.advance b move) (fun r r' => Facing k f f' o o' (Q r r')) E from
    fun c c' hs => hall (delivered hs.sessions) c c' hs
  intro hd
  refine Parallel.bind (parallel_plain hmove) fun r r' => ?_
  obtain ⟨x, a₁⟩ := r
  obtain ⟨x', b₁⟩ := r'
  dsimp only
  rw [hd]
  split
  · refine Parallel.bind (Q := fun _ _ => Facing k f f' o o' (Q (x, a₁) (x', b₁))) ?_ fun _ _ =>
      Parallel.pure fun _ _ hs => hs
    intro c c' hs
    obtain ⟨given, hgiven, hgiven'⟩ := hs.fired
    refine ⟨hs.left, hs.right, hs.keys, hs.keys', hs.sessions, given ++ a₁.delivered.toList, ?_, ?_⟩
    · exact (congrArg (· ++ a₁.delivered.toList) hgiven).trans (List.append_assoc _ _ _)
    · rw [← delivered (hQ _ _ _ _ hs.sessions)]
      exact (congrArg (· ++ b₁.delivered.toList) hgiven').trans (List.append_assoc _ _ _)
  · exact Parallel.pure fun _ _ hs => hs

theorem parallel_drop (a b : ResultCursor α) :
    Parallel (Facing k f f' none none P) (Client.plain (d.drop a)) (Client.plain (d.drop b))
      (fun _ _ => Faces M k f f') E :=
  Parallel.weaken (parallel_plain (Q := fun _ _ _ _ => True) fun _ _ _ => trivial)
    (fun _ _ _ _ => Facing.faces_none) fun _ _ hs => hs

/-! ## Steps that name the cursor -/

variable (h : Mirrored d M)
include h

theorem parallel_reads (i : StatementId) {row row' : CurrentRow} (hrow : row.row = row'.row)
    (reads : List (RowMapper α)) :
    Parallel (Facing k f f' o o' (M i (some row.cursor) (some row'.cursor)))
      (reads.mapM fun mapper => Client.plain (d.readRow row.cursor (mapper row.row)).run)
      (reads.mapM fun mapper => Client.plain (d.readRow row'.cursor (mapper row'.row)).run)
      (fun results results' c c' => results = results' ∧
        Facing k f f' o o' (M i (some row.cursor) (some row'.cursor)) c c') E := by
  induction reads with
  | nil => exact Parallel.pure fun _ _ hs => ⟨rfl, hs⟩
  | cons mapper reads ih =>
      rw [List.mapM_cons, List.mapM_cons, ← hrow]
      rw [← hrow] at ih
      refine Parallel.bind (parallel_plain (h.readRow i row.cursor row'.cursor _)) fun r r' => ?_
      refine Parallel.assuming fun hr => ?_
      refine Parallel.bind ih fun results results' => ?_
      exact Parallel.pure fun c c' hs => ⟨by rw [hr, hs.1], hs.2⟩

theorem parallel_next (reads : List (RowMapper α)) :
    Parallel (Faces M k f f') (Client.next d k reads) (Client.next d k reads)
      (fun r r' c c' => r = r' ∧ Faces M k f f' c c') (Faces M k f f') := by
  refine Parallel.bind parallel_cursor fun a b => ?_
  refine Parallel.bind (parallel_advance (h.nextRow a b) fun _ _ _ _ => ?_) fun r r' => ?_
  · exact Mirrored.alongside_of_moved
  obtain ⟨row, a₁⟩ := r
  obtain ⟨row', b₁⟩ := r'
  refine Parallel.bind (parallel_putCursor a₁ b₁) fun _ _ => ?_
  intro c c' hs
  have hfaces := (hs.knowing (Mirrored.alongside_of_moved hs.sessions)).faces
  rcases row with e | _ | row
  · obtain ⟨rfl, -⟩ := hs.sessions
    exact ⟨rfl, hfaces⟩
  · obtain ⟨rfl, -⟩ := hs.sessions
    exact ⟨rfl, hfaces⟩
  · obtain ⟨row', i, rfl, hrow, hm, halong⟩ := Mirrored.moved_row hs.sessions
    refine Parallel.bind (parallel_reads h i hrow reads) (fun results results' => ?_) c c'
      (hs.knowing hm)
    refine Parallel.pure fun c c' hs => ⟨by rw [hs.1], ?_⟩
    exact (hs.2.knowing (halong _ _ hs.2.sessions)).faces

theorem parallel_maps (a b : ResultCursor α) :
    Parallel (Facing k f f' none none (M.Alongside a b)) (Client.maps d a) (Client.maps d b)
      (fun rows rows' c c' => rows = rows' ∧ Faces M k f f' c c') (Faces M k f f') := by
  refine Parallel.bind (parallel_advance (h.rowMaps a b) fun _ _ _ _ hs => hs.2) fun r r' => ?_
  obtain ⟨rows, a₁⟩ := r
  obtain ⟨rows', b₁⟩ := r'
  refine Parallel.assuming fun hrows => ?_
  obtain rfl : rows = rows' := hrows
  refine Parallel.bind (Q := fun _ _ => Faces M k f f') (parallel_drop a₁ b₁) fun _ _ => ?_
  exact parallel_accept rows

theorem parallel_step {step : Step σ α} (hstep : step.cursor? = some k) :
    Parallel (Faces M k f f') (Client.takeStep d step) (Client.takeStep d step)
      (fun r r' c c' => r = r' ∧ Faces M k f f' c c') (Faces M k f f') := by
  cases step with
  | operation op =>
      cases op with
      | next id reads =>
          obtain rfl : id = k := Option.some.inj hstep
          exact parallel_next h reads
      | isClosed id =>
          obtain rfl : id = k := Option.some.inj hstep
          refine Parallel.bind parallel_cursor fun a b => ?_
          refine Parallel.pure fun c c' hs => ⟨?_, hs.faces⟩
          rw [hs.sessions.eq]
          rfl
      | close id =>
          obtain rfl : id = k := Option.some.inj hstep
          refine Parallel.bind parallel_takeCursor fun a b => ?_
          refine Parallel.bind (Parallel.weaken (parallel_act (h.close a b)) (fun _ _ _ _ hs => hs)
            fun _ _ => Facing.faces_none) fun _ _ => ?_
          exact Parallel.pure fun _ _ hs => ⟨rfl, hs.2.faces_none⟩
      | drop id =>
          obtain rfl : id = k := Option.some.inj hstep
          refine Parallel.bind parallel_takeCursor fun a b => ?_
          refine Parallel.bind (Q := fun _ _ => Faces M id f f') (parallel_drop a b) fun _ _ => ?_
          exact Parallel.pure fun _ _ hs => ⟨rfl, hs⟩
      | maps id =>
          obtain rfl : id = k := Option.some.inj hstep
          refine Parallel.bind parallel_takeCursor fun a b => ?_
          refine Parallel.bind (parallel_maps h a b) fun rows rows' => ?_
          exact Parallel.pure fun _ _ hs => ⟨by rw [hs.1], hs.2⟩
      | map id mapper limit keep =>
          obtain rfl : id = k := Option.some.inj hstep
          refine Parallel.bind parallel_takeCursor fun a b => ?_
          refine Parallel.bind (parallel_advance (h.mapRows mapper limit a b)
            fun _ _ _ _ hs => hs.2) fun r r' => ?_
          obtain ⟨items, a₁⟩ := r
          obtain ⟨items', b₁⟩ := r'
          refine Parallel.assuming fun hitems => ?_
          obtain rfl : items = items' := hitems
          cases keep with
          | true =>
              refine Parallel.bind (parallel_putCursor a₁ b₁) fun _ _ => ?_
              exact Parallel.pure fun _ _ hs => ⟨rfl, hs.faces⟩
          | false =>
              refine Parallel.bind (Q := fun _ _ => Faces M id f f') (parallel_drop a₁ b₁)
                fun _ _ => ?_
              exact Parallel.pure fun _ _ hs => ⟨rfl, hs⟩
      | select | update | call | execute => cases hstep
  | _ => cases hstep

/-! ## All steps -/

/-- If the other steps leave a cursor facing what it faced, leaving them out makes no difference to
what is seen of it. -/
theorem sights_filter {V : Client σ α → Prop} {A : Step σ α → Prop}
    (hkeep : ∀ step, A step → ∀ client, V client → V (client.step d step).2)
    (hother : ∀ step, A step → step.cursor? ≠ some k → ∀ client client', V client →
      Faced M k client client' → Faced M k (client.step d step).2 client')
    {steps : List (Step σ α)} (hsteps : ∀ step ∈ steps, A step) {client client' : Client σ α}
    (hv : V client) (hfaced : Faced M k client client') :
    sights d k client steps =
      sights d k client' (steps.filter fun step => step.cursor? = some k) := by
  induction steps generalizing client client' with
  | nil => rfl
  | cons step steps ih =>
      have hstep := hsteps step List.mem_cons_self
      have hrest := fun s hs => hsteps s (List.mem_cons_of_mem _ hs)
      have hnext := hkeep step hstep client hv
      by_cases hk : step.cursor? = some k
      · obtain ⟨hreply, hfaces⟩ := Answered.same (parallel_step h hk client client' hfaced)
        rw [List.filter_cons_of_pos (by simpa using hk)]
        simp only [sights, if_pos hk]
        have hsight : (⟨(client.step d step).1,
            (client.step d step).2.fired.drop client.fired.length,
            ((client.step d step).2.cursors.get? k).map (·.handler)⟩ : Sight α) =
            ⟨(client'.step d step).1, (client'.step d step).2.fired.drop client'.fired.length,
              ((client'.step d step).2.cursors.get? k).map (·.handler)⟩ := by
          rw [Sight.mk.injEq]
          exact ⟨hreply, hfaces.drop_fired, hfaces.handler⟩
        exact congrArg₂ List.cons hsight (ih hrest hnext hfaces.faced)
      · rw [List.filter_cons_of_neg (by simpa using hk)]
        simp only [sights, if_neg hk]
        exact ih hrest hnext (hother step hstep hk client client' hv hfaced)

end Client

end SqlGateway
