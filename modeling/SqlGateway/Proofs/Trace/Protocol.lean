import SqlGateway.Proofs.Trace.Basic

/-!
# Protocols

What may pass between an act and a driver, and whether the act has then succeeded. The protocol of
an act is put together from those of its parts, and is followed whatever the driver answers.
-/

namespace SqlGateway

/-- Traces, each with whether the act that left it has succeeded. -/
abbrev Protocol := List Exchange → Bool → Prop

namespace Protocol

inductive Done : Protocol
  | intro : Done [] true

inductive Once (c : Call) : Protocol
  | answered (a : c.Answer) : Once c [.call c (.ok a)] true
  | failed (f : Failure) : Once c [.call c (.error f)] false

/-- One call that a driver need not support. -/
inductive Hint (c : Call) : Protocol
  | answered (a : c.Answer) : Hint c [.call c (.ok a)] true
  | passedOver {f : Failure} (h : f.isUnsupported = true) : Hint c [.call c (.error f)] true
  | failed {f : Failure} (h : f.isUnsupported = false) : Hint c [.call c (.error f)] false

/-- One thing and then another, unless the first fails. -/
inductive Then (K L : Protocol) : Protocol
  | stop {t : List Exchange} (h : K t false) : Then K L t false
  | go {t u : List Exchange} {ok : Bool} (h : K t true) (h' : L u ok) : Then K L (t ++ u) ok

/-- One thing and then another, also where the first fails. -/
inductive Finally (K L : Protocol) : Protocol
  | intro {t u : List Exchange} {ok ok' : Bool} (h : K t ok) (h' : L u ok') :
      Finally K L (t ++ u) (ok && ok')

/-- One thing for each item of a list, up to the first that fails. -/
def Each {β : Type} (K : β → Protocol) : List β → Protocol
  | [] => Done
  | b :: bs => Then (K b) (Each K bs)

variable {K L M : Protocol}

/-! ## Laws -/

theorem done_then : Then Done L = L := by
  funext t ok
  refine propext ⟨fun h => ?_, fun h => Then.go Done.intro h⟩
  cases h with
  | stop h => cases h
  | go h h' =>
      cases h
      exact h'

theorem then_done : Then K Done = K := by
  funext t ok
  refine propext ⟨fun h => ?_, fun h => ?_⟩
  · cases h with
    | stop h => exact h
    | go h h' =>
        cases h'
        rwa [List.append_nil]
  · cases ok with
    | false => exact .stop h
    | true => exact List.append_nil t ▸ Then.go h .intro

theorem then_assoc : Then (Then K L) M = Then K (Then L M) := by
  funext t ok
  refine propext ⟨fun h => ?_, fun h => ?_⟩
  · cases h with
    | stop h =>
        cases h with
        | stop h => exact .stop h
        | go h h' => exact .go h (.stop h')
    | go h h' =>
        cases h with
        | go hK hL =>
            rw [List.append_assoc]
            exact .go hK (.go hL h')
  · cases h with
    | stop h => exact .stop (.stop h)
    | go h h' =>
        cases h' with
        | stop h' => exact .stop (.go h h')
        | go hL hM =>
            rw [← List.append_assoc]
            exact .go (.go h hL) hM

theorem each_append {β : Type} {K : β → Protocol} (as bs : List β) :
    Each K (as ++ bs) = Then (Each K as) (Each K bs) := by
  induction as with
  | nil => exact done_then.symm
  | cons a as ih => exact (congrArg (Then (K a)) ih).trans then_assoc.symm

theorem each_singleton {β : Type} {K : β → Protocol} (b : β) : Each K [b] = K b :=
  then_done

/-! ## Decisive protocols -/

/-- A trace shows where it ends and whether the act has succeeded, whatever comes after it. -/
def Decisive (K : Protocol) : Prop :=
  ∀ ⦃t t' u u' : List Exchange⦄ ⦃ok ok' : Bool⦄,
    K t ok → K t' ok' → t ++ u = t' ++ u' → t = t' ∧ ok = ok'

theorem call_injective {c : Call} {r r' : Except Failure c.Answer}
    (h : Exchange.call c r = .call c r') : r = r' := by
  cases h
  rfl

theorem Decisive.done : Decisive Done := by
  rintro _ _ u u' _ _ ⟨⟩ ⟨⟩ -
  exact ⟨rfl, rfl⟩

theorem Once.eq_call {c : Call} {t : List Exchange} {ok : Bool} (h : Once c t ok) :
    ∃ r, t = [.call c r] ∧ ok = r.toBool := by
  cases h with
  | answered a => exact ⟨_, rfl, rfl⟩
  | failed f => exact ⟨_, rfl, rfl⟩

theorem Decisive.once (c : Call) : Decisive (Once c) := by
  intro t t' u u' ok ok' h h' heq
  obtain ⟨r, rfl, rfl⟩ := h.eq_call
  obtain ⟨r', rfl, rfl⟩ := h'.eq_call
  obtain rfl := call_injective (List.cons.inj heq).1
  exact ⟨rfl, rfl⟩

theorem Hint.eq_call {c : Call} {t : List Exchange} {ok : Bool} (h : Hint c t ok) :
    ∃ r : Except Failure c.Answer, t = [.call c r] ∧
      ok = match r with
        | .ok _ => true
        | .error f => f.isUnsupported := by
  cases h with
  | answered a => exact ⟨_, rfl, rfl⟩
  | passedOver h => exact ⟨_, rfl, h.symm⟩
  | failed h => exact ⟨_, rfl, h.symm⟩

theorem Decisive.hint (c : Call) : Decisive (Hint c) := by
  intro t t' u u' ok ok' h h' heq
  obtain ⟨r, rfl, rfl⟩ := h.eq_call
  obtain ⟨r', rfl, rfl⟩ := h'.eq_call
  obtain rfl := call_injective (List.cons.inj heq).1
  exact ⟨rfl, rfl⟩

theorem Decisive.andThen (hK : Decisive K) (hL : Decisive L) : Decisive (Then K L) := by
  intro t t' u u' ok ok' h h' heq
  cases h with
  | stop h =>
      cases h' with
      | stop h' => exact hK h h' heq
      | go h' _ =>
          rw [List.append_assoc] at heq
          cases (hK h h' heq).2
  | go h hu =>
      rw [List.append_assoc] at heq
      cases h' with
      | stop h' => cases (hK h h' heq).2
      | go h' hu' =>
          rw [List.append_assoc] at heq
          obtain ⟨rfl, -⟩ := hK h h' heq
          obtain ⟨rfl, rfl⟩ := hL hu hu' (List.append_cancel_left heq)
          exact ⟨rfl, rfl⟩

theorem Decisive.andFinally (hK : Decisive K) (hL : Decisive L) : Decisive (Finally K L) := by
  intro t t' u u' ok ok' h h' heq
  obtain ⟨h, hu⟩ := h
  obtain ⟨h', hu'⟩ := h'
  rw [List.append_assoc, List.append_assoc] at heq
  obtain ⟨rfl, rfl⟩ := hK h h' heq
  obtain ⟨rfl, rfl⟩ := hL hu hu' (List.append_cancel_left heq)
  exact ⟨rfl, rfl⟩

theorem Decisive.each {β : Type} {K : β → Protocol} (h : ∀ b, Decisive (K b)) (bs : List β) :
    Decisive (Each K bs) := by
  induction bs with
  | nil => exact Decisive.done
  | cons b bs ih => exact (h b).andThen ih

end Protocol

/-! ## Acts that follow a protocol -/

open Protocol

variable {σ ε α β : Type} {d : Driver σ}

/-- Whatever the driver answers, what passes is in the protocol. -/
def Follows (act : Act (Traced σ) ε α) (L : Protocol) : Prop :=
  ∀ s, ∃ t, (act.run s).2.trace = s.trace ++ t ∧ L t (act.run s).1.toBool

namespace Follows

variable {act : Act (Traced σ) ε α} {K L : Protocol}

theorem mono (h : Follows act K) (hL : ∀ t ok, K t ok → L t ok) : Follows act L := by
  intro s
  obtain ⟨t, ht, hK⟩ := h s
  exact ⟨t, ht, hL _ _ hK⟩

theorem pure {a : α} : Follows (Pure.pure a : Act (Traced σ) ε α) Done :=
  fun _ => ⟨[], (List.append_nil _).symm, .intro⟩

theorem debug (text : String) :
    Follows (ExceptT.lift (Session.debug text) : Act (Traced σ) ε Unit) Done :=
  fun _ => ⟨[], (List.append_nil _).symm, .intro⟩

theorem perform (c : Call) : Follows (d.traced.perform c) (Once c) := by
  intro s
  refine ⟨[.call c (d.call c s.database.database).1], rfl, ?_⟩
  change Once c _ (d.call c s.database.database).1.toBool
  cases (d.call c s.database.database).1 with
  | ok a => exact .answered a
  | error f => exact .failed f

theorem bind {f : α → Act (Traced σ) ε β} (h : Follows act K) (hf : ∀ a, Follows (f a) L) :
    Follows (act >>= f) (Then K L) := by
  intro s
  obtain ⟨t, ht, hK⟩ := h s
  change ∃ u, (ExceptT.bindCont f (act.run s).1 (act.run s).2).2.trace = s.trace ++ u ∧
    Then K L u (ExceptT.bindCont f (act.run s).1 (act.run s).2).1.toBool
  cases hr : (act.run s).1 with
  | error e =>
      rw [hr] at hK
      exact ⟨t, ht, .stop hK⟩
  | ok a =>
      rw [hr] at hK
      obtain ⟨u, hu, hL⟩ := hf a (act.run s).2
      exact ⟨t ++ u, by rw [← List.append_assoc, ← ht]; exact hu, .go hK hL⟩

theorem map {f : α → β} (h : Follows act K) : Follows (f <$> act) K := by
  rw [map_eq_pure_bind, ← then_done (K := K)]
  exact h.bind fun a => pure

theorem forM {γ : Type} {f : α → Act (Traced σ) ε Unit} {K : γ → Protocol} {g : α → γ}
    (h : ∀ a, Follows (f a) (K (g a))) (o : Option α) :
    Follows (ForM.forM o f) (Each K (o.map g).toList) := by
  cases o with
  | none => exact pure
  | some a =>
      change Follows (f a) (Each K [g a])
      rw [each_singleton]
      exact h a

theorem surfaced {act : Act (Traced σ) Failure α} (h : Follows act L) :
    Follows (surfaced act) L := by
  intro s
  obtain ⟨t, ht, hL⟩ := h s
  refine ⟨t, ht, ?_⟩
  change L t ((act.run s).1.mapError Error.ofFailure).toBool
  revert hL
  cases (act.run s).1 <;> exact id

end Follows

/-- What an act lets pass comes after what has passed before. -/
theorem Follows.since {act : Act (Traced σ) ε α} {L : Protocol} {t : List Exchange}
    {p q e : List Exchange → Prop} (h : Follows act L) (hok : ∀ u v, p u → L v true → q (u ++ v))
    (herror : ∀ u v, p u → L v false → e (u ++ v)) :
    Secures (Since t p) act (fun _ => Since t q) (Since t e) := by
  rintro s ⟨u, hu, hp⟩
  obtain ⟨v, hv, hL⟩ := h s
  have htrace : (act.run s).2.trace = t ++ (u ++ v) := by
    rw [hv, hu, List.append_assoc]
  change Settled _ _ (act.run s).1 (act.run s).2
  generalize (act.run s).1 = r at hL ⊢
  cases r with
  | ok a => exact ⟨u ++ v, htrace, hok u v hp hL⟩
  | error f => exact ⟨u ++ v, htrace, herror u v hp hL⟩

/-- The same where it does not matter whether the act succeeds. -/
theorem Follows.since_either {act : Act (Traced σ) ε α} {L : Protocol} {t : List Exchange}
    {p q : List Exchange → Prop} (h : Follows act L)
    (hq : ∀ u v ok, p u → L v ok → q (u ++ v)) :
    Secures (Since t p) act (fun _ => Since t q) (Since t q) :=
  h.since (fun u v => hq u v true) fun u v => hq u v false

theorem Follows.of_since {act : Act (Traced σ) ε α} {L : Protocol}
    (h : ∀ t, Secures (Since t (· = [])) act (fun _ => Since t (L · true)) (Since t (L · false))) :
    Follows act L := by
  intro s
  have hr := h s.trace s (Since.refl s)
  revert hr
  change Settled _ _ (act.run s).1 (act.run s).2 → _
  cases (act.run s).1 <;> exact id

end SqlGateway
