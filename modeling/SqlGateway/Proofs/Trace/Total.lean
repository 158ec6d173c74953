import Mathlib.Control.Monad.Basic
import SqlGateway.Database.Memory.Driver
import SqlGateway.Database.Memory.Procedure
import SqlGateway.Proofs.Act.Transaction
import SqlGateway.Proofs.Trace.Basic

/-!
# Totals

The total of an update against the counts that the driver has reported for its rows. The total has
64 bits and so has each count, but for its sign: two counts always fit, and where more of them come
to 2 ^ 64 or beyond, the total is what is left of their sum modulo 2 ^ 64.
-/

namespace SqlGateway

variable {σ α : Type} {d : Driver σ}

/-! ## Reported counts -/

def Exchange.counts : Exchange → List Int64
  | .call (.executeUpdate _) (.ok count) => [count.toInt64]
  | .call (.executeLargeUpdate _) (.ok count) => [count]
  | .call (.executeBatch _) (.ok counts) => counts.map Int32.toInt64
  | .call (.executeLargeBatch _) (.ok counts) => counts
  | _ => []

/-- All counts that were reported, in order. -/
def countsIn (t : List Exchange) : List Int64 :=
  t.flatMap Exchange.counts

theorem countsIn_concat (t : List Exchange) (e : Exchange) :
    countsIn (t ++ [e]) = countsIn t ++ e.counts := by
  simp [countsIn]

/-- The total of an update is that of the counts: one for each row, or those of a batch. -/
structure Tallied (rows : List (List Value)) (total : UInt64) (t : List Exchange) : Prop where
  counts : (countsIn t).length = rows.length ∨
    ∃ i, .call (.executeLargeBatch i) (.ok (countsIn t)) ∈ t
  total : total.toNat = changed (countsIn t) % 2 ^ 64

/-! ## What reports nothing -/

/-- What passes makes no difference to `p` if no count is reported. -/
def Steady (p : List Exchange → Prop) : Prop :=
  ∀ t e, e.counts = [] → p t → p (t ++ [e])

theorem steady_countsIn (q : List Int64 → Prop) : Steady fun t => q (countsIn t) := by
  intro t e he hq
  rwa [countsIn_concat, he, List.append_nil]

theorem steady_tallied {rows : List (List Value)} {total : UInt64} :
    Steady (Tallied rows total) := by
  rintro t e he ⟨hcounts, htotal⟩
  have hsame : countsIn (t ++ [e]) = countsIn t := by rw [countsIn_concat, he, List.append_nil]
  constructor
  · rw [hsame]
    exact hcounts.imp_right fun ⟨i, hi⟩ => ⟨i, List.mem_append_left _ hi⟩
  · rwa [hsame]

namespace Steady

variable {p : List Exchange → Prop} {t : List Exchange} (hp : Steady p)
include hp

theorem perform {c : Call} (hc : ∀ r, (Exchange.call c r).counts = []) :
    Keeps (Since t p) (d.traced.perform c) :=
  Since.perform (fun u _ hu => hp u _ (hc _) hu) fun u _ hu => hp u _ (hc _) hu

theorem ask (q : Probe) : Triple (Since t p) (d.traced.ask q) fun _ => Since t p :=
  Since.ask fun u _ hu => hp u _ rfl hu

theorem keepsAround : d.traced.KeepsAround (Since t p) := by
  intro c hc _
  apply hp.perform
  cases c <;> first | exact fun _ => rfl | cases hc

theorem prepare {sql : String} {kind : StatementKind} {keys : GeneratedKeys} :
    Keeps (Since t p) (d.traced.prepare sql kind keys) :=
  Keeps.prepare (fun _ _ _ hs => hs) fun _ => hp.perform fun _ => rfl

theorem applyOptions (i : StatementId) (options : Options) :
    Keeps (Since t p) (d.traced.applyOptions i options) := by
  refine Keeps.applyOptions Since.log options fun c hc _ => hp.perform ?_
  cases c <;> first | exact fun _ => rfl | cases hc

theorem bindFrom (i : StatementId) (position : Nat) (values : List Value) :
    Keeps (Since t p) (d.traced.bindFrom i position values) :=
  Driver.bindFrom_secures (fun _ _ => hp.perform fun _ => rfl) position values

theorem addRows (i : StatementId) (rows : List (List Value)) :
    Keeps (Since t p) (d.traced.addRows i rows) :=
  Driver.addRows_secures (fun _ _ => hp.perform fun _ => rfl) (hp.perform fun _ => rfl) rows

end Steady

/-! ## Rows -/

section Rows

variable {t : List Exchange} {counts : List Int64}

theorem executeRow_reports (i : StatementId) (large : Bool) :
    Yields (Since t (countsIn · = counts)) (d.traced.executeRow i large)
      (fun count => Since t (countsIn · = counts ++ [count])) := by
  have execute {c : Call} (count : c.Answer → Int64)
      (hc : ∀ a, (Exchange.call c (.ok a)).counts = [count a]) :
      Yields (Since t (countsIn · = counts)) (d.traced.perform c)
        (fun a => Since t (countsIn · = counts ++ [count a])) := by
    refine (Since.perform (e := fun _ => True) (fun u a hu => ?_) fun _ _ _ => trivial).yields
    rw [countsIn_concat, hu, hc]
  cases large with
  | true => exact execute (c := .executeLargeUpdate i) id fun _ => rfl
  | false =>
      exact Secures.map (execute (c := .executeUpdate i) Int32.toInt64 fun _ => rfl)
        fun _ _ hs => hs

theorem countEach_reports (i : StatementId) (large : Bool) (total : UInt64)
    (rows : List (List Value)) :
    Yields (Since t (countsIn · = counts)) (d.traced.countEach i large total rows)
      (fun v => Since t fun u => ∃ new, countsIn u = counts ++ new ∧ new.length = rows.length ∧
        v.toNat = (total.toNat + changed new) % 2 ^ 64) := by
  -- what is reported for the rows comes after `counts`, and is added to what they came to
  induction rows generalizing total counts with
  | nil =>
      refine Secures.pure fun s hs => hs.mono fun u hu => ⟨[], ?_, rfl, ?_⟩
      · rw [hu, List.append_nil]
      · exact (Nat.mod_eq_of_lt total.toNat_lt).symm
  | cons row rows ih =>
      refine Secures.bind ((steady_countsIn (· = counts)).bindFrom i 1 row).yields fun _ => ?_
      refine Secures.bind (executeRow_reports i large) fun count => ?_
      refine Secures.weaken (ih (total + countRows count)) (fun v s hs => hs.mono ?_) fun _ hs => hs
      rintro u ⟨new, hu, hlen, hv⟩
      refine ⟨count :: new, ?_, congrArg (· + 1) hlen, ?_⟩
      · rw [hu, List.append_assoc, List.singleton_append]
      · rw [hv, toNat_add_countRows, Nat.mod_add_mod, changed_cons, Nat.add_assoc]

theorem runRows_tallied (i : StatementId) (rows : List (List Value)) (large batch : Bool) :
    Yields (Since t (countsIn · = [])) (d.traced.runRows i rows large batch)
      (fun total => Since t (Tallied rows total)) := by
  cases batch with
  | true =>
      refine Secures.bind ((steady_countsIn (· = [])).addRows i rows).yields fun _ => ?_
      have execute : Yields (Since t (countsIn · = [])) (d.traced.perform (.executeLargeBatch i))
          (fun counts => Since t fun u =>
            countsIn u = counts ∧ .call (.executeLargeBatch i) (.ok counts) ∈ u) := by
        refine (Since.perform (e := fun _ => True) (fun u a hu => ?_) fun _ _ _ => trivial).yields
        rw [countsIn_concat, hu]
        exact ⟨rfl, List.mem_append_right _ (List.mem_singleton.mpr rfl)⟩
      refine Secures.bind execute fun counts => Secures.pure fun s hs => hs.mono ?_
      rintro u ⟨rfl, hu⟩
      refine ⟨.inr ⟨i, hu⟩, ?_⟩
      rw [toNat_foldl_countRows, UInt64.toNat_zero, Nat.zero_add]
  | false =>
      refine Secures.weaken (countEach_reports i large 0 rows) (fun v s hs => hs.mono ?_)
        fun _ hs => hs
      rintro u ⟨new, hu, hlen, hv⟩
      rw [List.nil_append] at hu
      rw [UInt64.toNat_zero, Nat.zero_add] at hv
      exact ⟨.inl (hu ▸ hlen), hu ▸ hv⟩

end Rows

/-! ## Updates -/

variable {sql : String} {rows : List (List Value)} {options : Options} {t : List Exchange}

theorem runUpdate_tallied :
    Yields (Since t (countsIn · = []))
      (d.traced.runUpdate sql .none rows options fun i batch =>
        surfaced (d.traced.runRows i rows options.large batch))
      (fun total => Since t (Tallied rows total)) := by
  have hnone : Steady (countsIn · = []) := steady_countsIn (· = [])
  exact Driver.runUpdate_yields (hnone.ask .isClosed) hnone.prepare.yields
    (fun i => hnone.applyOptions i options) (fun _ => hnone.ask .supportsBatch)
    (fun i batch => (runRows_tallied i rows options.large batch).surfaced)
    fun i total => (steady_tallied.perform fun _ => rfl).yields

theorem executeUpdate_tallied :
    Yields (Since t (countsIn · = [])) (d.traced.executeUpdate sql rows options)
      (fun total => Since t (Tallied rows total)) := by
  have hnone : Steady (countsIn · = []) := steady_countsIn (· = [])
  refine Driver.executeUpdate_yields Since.log hnone.ask hnone.keepsAround
    (fun _ => steady_tallied.keepsAround) ?_ fun _ => runUpdate_tallied
  rintro rfl s hs
  refine hs.mono fun u hu => ⟨.inl ?_, ?_⟩
  · rw [hu]
    rfl
  · rw [hu]
    rfl

/-- The total is what the sum of all reported counts leaves modulo 2 ^ 64, a negative count being
taken for nothing. So it is that sum if the sum is less than 2 ^ 64, as the sum of two counts is. -/
theorem update_total (d : Driver σ) (sql : String) (rows : List (List Value)) (options : Options)
    {s s' : Session (Traced σ)} {total : UInt64}
    (h : (d.traced.executeUpdate sql rows options).run s = (.ok total, s')) :
    ∃ t, s'.trace = s.trace ++ t ∧
      ((countsIn t).length = rows.length ∨
        ∃ i, .call (.executeLargeBatch i) (.ok (countsIn t)) ∈ t) ∧
      total.toNat = changed (countsIn t) % 2 ^ 64 ∧
      (total.toNat = changed (countsIn t) ↔ changed (countsIn t) < 2 ^ 64) ∧
      ((countsIn t).length ≤ 2 → total.toNat = changed (countsIn t)) := by
  have hstart : Since s.trace (countsIn · = []) s := (Since.refl s).mono fun u hu => by
    rw [hu]
    rfl
  obtain ⟨t, ht, hcounts, htotal⟩ := Triple.of_run executeUpdate_tallied hstart h
  have hexact (hfits : changed (countsIn t) < 2 ^ 64) : total.toNat = changed (countsIn t) := by
    rw [htotal, Nat.mod_eq_of_lt hfits]
  refine ⟨t, ht, hcounts, htotal, ⟨fun heq => ?_, hexact⟩, fun hlen => hexact ?_⟩
  · exact heq ▸ total.toNat_lt
  · have hle := changed_le (countsIn t)
    have htwo := Nat.mul_le_mul_right (2 ^ 63 - 1) hlen
    omega

open Database in
/-- Two of the greatest counts, from a batch. -/
theorem update_total_two_counts :
    let db := Memory.define {} "INSERT" (.fixed (.ok { count := 9223372036854775807 }))
    let s : Session (Traced Memory) := { database := { database := db } }
    ∃ s' t, (Memory.driver.traced.executeUpdate "INSERT" [[.text "a"], [.text "b"]]
        { large := true, batch := true }).run s = (.ok 18446744073709551614, s') ∧
      s'.trace = s.trace ++ t ∧ ((countsIn t).length = 2 ∨
        ∃ i, .call (.executeLargeBatch i) (.ok (countsIn t)) ∈ t) ∧
      changed (countsIn t) % 2 ^ 64 = 18446744073709551614 := by
  intro db s
  have hok : ((Memory.driver.traced.executeUpdate "INSERT" [[.text "a"], [.text "b"]]
      { large := true, batch := true }).run s).1 = .ok 18446744073709551614 := by decide +kernel
  generalize hrun : (Memory.driver.traced.executeUpdate "INSERT" [[.text "a"], [.text "b"]]
    { large := true, batch := true }).run s = result at hok
  obtain ⟨outcome, s'⟩ := result
  obtain rfl : outcome = .ok 18446744073709551614 := hok
  obtain ⟨t, ht, hcounts, htotal, -⟩ := update_total Memory.driver "INSERT" _ _ hrun
  exact ⟨s', t, rfl, ht, hcounts, htotal.symm⟩

open Database in
/-- Three of the greatest counts are not added up, whether they are from a batch or not. -/
theorem three_counts_wrap :
    let db := Memory.define {} "INSERT" (.fixed (.ok { count := 9223372036854775807 }))
    let s : Session (Traced Memory) := { database := { database := db } }
    let result (batch : Bool) := (Memory.driver.traced.executeUpdate "INSERT"
      [[.text "a"], [.text "b"], [.text "c"]] { large := true, batch }).run s
    ∀ batch, (result batch).1 = .ok 9223372036854775805 ∧
      changed (countsIn (result batch).2.trace) = 27670116110564327421 := by
  decide +kernel

end SqlGateway
