import Mathlib.Logic.Function.Basic
import SqlGateway.Proofs.Trace.Transaction

/-!
# What a statement is fed

A trace from where its statements stand. A value that was bound stays until another one takes its
place, and is sent with every row until then. Nothing but binding and executing makes a difference.
-/

namespace SqlGateway

open Protocol

/-! ## Feeds -/

/-- The values at the positions of a statement, each as it was last bound. -/
abbrev Slots := Nat → Option Value

def Slots.ofRow (row : List Value) : Slots
  | 0 => none
  | position + 1 => row[position]?

/-- What a statement is sent: something to do with the values that are bound, or its batch to
run. -/
inductive Sending where
  | row (c : Call) (values : Slots)
  | batch (c : Call)

def Call.sending? (bound : StatementId → Slots) : Call → Option Sending
  | addBatch i => some (.row (addBatch i) (bound i))
  | execute i => some (.row (execute i) (bound i))
  | executeUpdate i => some (.row (executeUpdate i) (bound i))
  | executeLargeUpdate i => some (.row (executeLargeUpdate i) (bound i))
  | executeBatch i => some (.batch (executeBatch i))
  | executeLargeBatch i => some (.batch (executeLargeBatch i))
  | _ => none

structure Feed where
  bound : StatementId → Slots := fun _ _ => none
  sent : List Sending := []

namespace Feed

def bind (f : Feed) (i : StatementId) (position : Nat) (value : Value) : Feed :=
  { f with bound := Function.update f.bound i (Function.update (f.bound i) position (some value)) }

def after (f : Feed) : Exchange → Feed
  | .probe _ _ => f
  | .call (.bind i position value) (.ok _) => f.bind i position value
  | .call c _ => { f with sent := f.sent ++ (c.sending? f.bound).toList }

def afterAll (f : Feed) (t : List Exchange) : Feed :=
  t.foldl after f

theorem afterAll_append (f : Feed) (t u : List Exchange) :
    f.afterAll (t ++ u) = (f.afterAll t).afterAll u :=
  List.foldl_append

end Feed

/-- What is to be sent for the rows, in order: each row once and, where they are a batch, the batch
once after them. -/
def sendings (i : StatementId) (rows : List (List Value)) (large batch : Bool) : List Sending :=
  if batch then
    rows.map (fun row => .row (.addBatch i) (.ofRow row)) ++ [.batch (.executeLargeBatch i)]
  else rows.map fun row => .row (Call.execution i large) (.ofRow row)

def width (rows : List (List Value)) : Nat :=
  (rows.head?.map List.length).getD 0

/-- What has passed has fed the rows to a statement, and all of them if it came to a good end. -/
structure Fed (i : StatementId) (rows : List (List Value)) (options : Options) (batch : Bool)
    (t : List Exchange) (ok : Bool) : Prop where
  sent : (Feed.afterAll {} t).sent <+: sendings i rows options.large batch
  sent_all : ok = true → (Feed.afterAll {} t).sent = sendings i rows options.large batch
  bound_within : ∀ {j : StatementId} {position : Nat} {value : Value}
    {answer : Except Failure Unit},
    .call (.bind j position value) answer ∈ t → j = i ∧ 1 ≤ position ∧ position ≤ width rows
  batch_wanted : batch = true → options.batch = true ∧ 1 < rows.length
  batch_supported : batch = true ↔ .probe .supportsBatch true ∈ t

/-- The rows are fed to some statement, as a batch or one by one. -/
def RowsFed (rows : List (List Value)) (options : Options) : Protocol :=
  fun t ok => ∃ i batch, Fed i rows options batch t ok

/-! ## Exchanges that do not matter -/

/-- Neither binds nor sends anything, nor asks for batches. -/
def Exchange.aside : Exchange → Bool
  | .probe .supportsBatch _ => false
  | .probe _ _ => true
  | .call c _ =>
    match c with
    | .bind _ _ _ | .addBatch _ | .execute _ | .executeUpdate _ | .executeLargeUpdate _
    | .executeBatch _ | .executeLargeBatch _ => false
    | _ => true

theorem Feed.after_of_aside {e : Exchange} (h : e.aside = true) (f : Feed) : f.after e = f := by
  cases e with
  | probe p answer => rfl
  | call c answer =>
      have same : { f with sent := f.sent ++ [] } = f := by rw [List.append_nil]
      cases c with
      | bind | addBatch | execute | executeUpdate | executeLargeUpdate | executeBatch
      | executeLargeBatch => cases h
      | _ => exact same

theorem Feed.afterAll_of_aside {t : List Exchange} (h : ∀ e ∈ t, e.aside = true) (f : Feed) :
    f.afterAll t = f := by
  induction t generalizing f with
  | nil => rfl
  | cons e t ih =>
      obtain ⟨he, ht⟩ := List.forall_mem_cons.mp h
      change (f.after e).afterAll t = f
      rw [Feed.after_of_aside he]
      exact ih ht f

namespace Protocol

/-- Nothing that passes matters. -/
def Aside (K : Protocol) : Prop :=
  ∀ t ok, K t ok → ∀ e ∈ t, e.aside = true

variable {K L : Protocol}

theorem Aside.done : Aside Done := by
  rintro t ok ⟨⟩
  exact List.forall_mem_nil _

theorem Aside.once {c : Call} (hc : ∀ r, (Exchange.call c r).aside = true) : Aside (Once c) := by
  intro t ok h
  obtain ⟨r, rfl, -⟩ := h.eq_call
  exact List.forall_mem_singleton.mpr (hc r)

theorem Aside.hint {c : Call} (hc : ∀ r, (Exchange.call c r).aside = true) : Aside (Hint c) := by
  intro t ok h
  obtain ⟨r, rfl, -⟩ := h.eq_call
  exact List.forall_mem_singleton.mpr (hc r)

theorem Aside.andThen (hK : Aside K) (hL : Aside L) : Aside (Then K L) := by
  intro t ok h
  cases h with
  | stop h => exact hK _ _ h
  | go h h' => exact List.forall_mem_append.mpr ⟨hK _ _ h, hL _ _ h'⟩

theorem Aside.andFinally (hK : Aside K) (hL : Aside L) : Aside (Finally K L) := by
  rintro t ok ⟨h, h'⟩
  exact List.forall_mem_append.mpr ⟨hK _ _ h, hL _ _ h'⟩

theorem Aside.each {β : Type} {K : β → Protocol} {bs : List β} (h : ∀ b ∈ bs, Aside (K b)) :
    Aside (Each K bs) := by
  induction bs with
  | nil => exact .done
  | cons b bs ih =>
      obtain ⟨hb, hbs⟩ := List.forall_mem_cons.mp h
      exact hb.andThen (ih hbs)

/-- Something with `L` that matters, and about it what does not. It need not have been come to. -/
inductive Around (L : Protocol) : Protocol
  | apart {t : List Exchange} (h : ∀ e ∈ t, e.aside = true) : Around L t false
  | intro {t u v : List Exchange} {ok ok' : Bool} (ht : ∀ e ∈ t, e.aside = true) (hu : L u ok)
      (hv : ∀ e ∈ v, e.aside = true) (hok : ok' = true → ok = true) :
      Around L (t ++ (u ++ v)) ok'

theorem Around.mono {t : List Exchange} {ok : Bool} (hL : ∀ t ok, K t ok → L t ok)
    (h : Around K t ok) : Around L t ok := by
  cases h with
  | apart h => exact .apart h
  | intro ht hu hv hok => exact .intro ht (hL _ _ hu) hv hok

theorem Around.extend {t u v : List Exchange} {ok ok' : Bool} (ht : ∀ e ∈ t, e.aside = true)
    (hu : Around L u ok) (hv : ∀ e ∈ v, e.aside = true) (hok : ok' = true → ok = true) :
    Around L (t ++ (u ++ v)) ok' := by
  cases hu with
  | apart hu =>
      obtain rfl : ok' = false := Bool.eq_false_iff.mpr fun h => absurd (hok h) nofun
      exact .apart (List.forall_mem_append.mpr ⟨ht, List.forall_mem_append.mpr ⟨hu, hv⟩⟩)
  | @intro t' u v' ok _ ht' hu hv' hok' =>
      have hassoc : t ++ ((t' ++ (u ++ v')) ++ v) = (t ++ t') ++ (u ++ (v' ++ v)) := by simp
      rw [hassoc]
      exact .intro (List.forall_mem_append.mpr ⟨ht, ht'⟩) hu (List.forall_mem_append.mpr ⟨hv', hv⟩)
        fun h => hok' (hok h)

end Protocol

/-- What a statement is fed is not changed by anything around it. -/
theorem RowsFed.around {rows : List (List Value)} {options : Options} {t : List Exchange}
    {ok : Bool}
    (h : Around (RowsFed rows options) t ok) : RowsFed rows options t ok := by
  have unbound {t : List Exchange} (ht : ∀ e ∈ t, e.aside = true) {i : StatementId} {p : Nat}
      {v : Value} {r : Except Failure Unit} : .call (.bind i p v) r ∉ t :=
    fun h => absurd (ht _ h) nofun
  have unasked {t : List Exchange} (ht : ∀ e ∈ t, e.aside = true) {b : Bool} :
      .probe .supportsBatch b ∉ t :=
    fun h => absurd (ht _ h) nofun
  cases h with
  | apart ht =>
      have hsent : Feed.afterAll {} t = {} := Feed.afterAll_of_aside ht _
      refine ⟨⟨0⟩, false, ?_, nofun, fun hb => absurd hb (unbound ht), nofun, ?_⟩
      · rw [hsent]
        exact List.nil_prefix
      · exact iff_of_false nofun (unasked ht)
  | @intro t u v ok ok' ht hu hv hok =>
      obtain ⟨i, batch, hu⟩ := hu
      have hsent : Feed.afterAll {} (t ++ (u ++ v)) = Feed.afterAll {} u := by
        rw [Feed.afterAll_append, Feed.afterAll_append, Feed.afterAll_of_aside ht,
          Feed.afterAll_of_aside hv]
      refine ⟨i, batch, ?_, fun h => ?_, fun hb => ?_, hu.batch_wanted, ?_⟩
      · rw [hsent]
        exact hu.sent
      · rw [hsent]
        exact hu.sent_all (hok h)
      · simp only [List.mem_append, unbound ht, unbound hv, false_or, or_false] at hb
        exact hu.bound_within hb
      · simp only [List.mem_append, unasked ht, unasked hv, false_or, or_false]
        exact hu.batch_supported

end SqlGateway
