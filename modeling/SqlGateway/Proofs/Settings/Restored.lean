import SqlGateway.Proofs.Act.Transaction
import SqlGateway.Proofs.Settings.Databases
import SqlGateway.Proofs.Trace.Basic

/-!
# Settings are put back

A transaction switches auto-commit off and may change the isolation level. Whatever fails on the
way, it tries to put both back; so from one operation to the next they only differ where that very
attempt has failed.
-/

namespace SqlGateway

variable {σ α : Type} {d : Driver σ}

/-! ## What has become of the settings -/

/-- Auto-commit is `a`, unless it was on and switching it on again has failed. -/
def AutoCommitSince (a : Bool) (v : Stored) (t : List Exchange) : Prop :=
  v.autoCommit = a ∨ a = true ∧ ∃ f, .call (.setAutoCommit a) (.error f) ∈ t

/-- Going back to an isolation level has failed. It is tried right after auto-commit was put
back. -/
def RevertFailed (b : IsolationLevel) (t : List Exchange) : Prop :=
  ∃ a r f, [.call (.setAutoCommit a) r, .call (.setIsolation b) (.error f)] <:+: t

/-- The isolation level is `b`, unless going back to it has failed. -/
def IsolationSince (b : IsolationLevel) (v : Stored) (t : List Exchange) : Prop :=
  v.isolation = b ∨ RevertFailed b t

/-- What is stored where `v` was stored before, and what has passed since. -/
def StoredSince (v w : Stored) (t : List Exchange) : Prop :=
  AutoCommitSince v.autoCommit w t ∧ IsolationSince v.isolation w t

theorem AutoCommitSince.append {a : Bool} {v : Stored} {t : List Exchange}
    (h : AutoCommitSince a v t) (t' : List Exchange) : AutoCommitSince a v (t ++ t') :=
  h.imp_right fun ⟨ha, f, hf⟩ => ⟨ha, f, List.mem_append_left _ hf⟩

theorem RevertFailed.mono {b : IsolationLevel} {t t' : List Exchange} (h : RevertFailed b t)
    (ht : t <:+: t') : RevertFailed b t' := by
  obtain ⟨a, r, f, hf⟩ := h
  exact ⟨a, r, f, hf.trans ht⟩

theorem IsolationSince.append {b : IsolationLevel} {v : Stored} {t : List Exchange}
    (h : IsolationSince b v t) (t' : List Exchange) : IsolationSince b v (t ++ t') :=
  h.imp_right (·.mono (List.prefix_append t t').isInfix)

theorem IsolationSince.trans {b : IsolationLevel} {v w : Stored} {t t' : List Exchange}
    (h : IsolationSince b v t) (h' : IsolationSince v.isolation w t') :
    IsolationSince b w (t ++ t') := by
  rcases h with hv | hf
  · rcases h' with hw | hf
    · exact .inl (hw.trans hv)
    · exact .inr (hv ▸ hf.mono (List.suffix_append t t').isInfix)
  · exact .inr (hf.mono (List.prefix_append t t').isInfix)

/-- What has passed since the trace was `t`, and what is stored, are as `p` says. -/
def Grown (S : StoredSettings d) (t : List Exchange) (p : Stored → List Exchange → Prop)
    (s : Session (Traced σ)) : Prop :=
  Since t (p (S.read s.database.database)) s

namespace Grown

variable {S : StoredSettings d} {t : List Exchange} {p q e : Stored → List Exchange → Prop}

theorem extend {s : Session (Traced σ)} {x : Exchange} {database : σ}
    (hs : Since t (fun new => p (S.read database) (new ++ [x])) s) :
    Grown S t p (s.extend x database) :=
  Since.extend hs

theorem ask {probe : Probe} (h : ∀ v new answer, p v new → q v (new ++ [.probe probe answer])) :
    Triple (Grown S t p) (d.traced.ask probe) fun _ => Grown S t q := by
  refine d.traced_ask fun s answer database hprobe hs => Grown.extend (hs.mono fun new hp => ?_)
  have hread := S.probe probe s.database.database
  rw [hprobe] at hread
  rw [show S.read database = _ from hread]
  exact h _ _ _ hp

theorem performKnown {c : Call} {q : c.Answer → Stored → List Exchange → Prop}
    (hok : ∀ database new answer after, d.call c database = (.ok answer, after) →
      p (S.read database) new →
        q answer (c.store (S.read database)) (new ++ [.call c (.ok answer)]))
    (herror : ∀ v new f, p v new → e v (new ++ [.call c (.error f)])) :
    Secures (Grown S t p) (d.traced.perform c) (fun a => Grown S t (q a)) (Grown S t e) := by
  refine d.traced_perform
    (fun s a database hcall hs => Grown.extend (hs.mono fun new hp => ?_))
    fun s f database hcall hs => Grown.extend (hs.mono fun new hp => ?_)
  · rw [S.stored_of_ok hcall]
    exact hok _ _ _ _ hcall hp
  · rw [S.failed hcall]
    exact herror _ _ _ hp

theorem perform {c : Call} {q : c.Answer → Stored → List Exchange → Prop}
    (hok : ∀ v new answer, p v new → q answer (c.store v) (new ++ [.call c (.ok answer)]))
    (herror : ∀ v new f, p v new → e v (new ++ [.call c (.error f)])) :
    Secures (Grown S t p) (d.traced.perform c) (fun a => Grown S t (q a)) (Grown S t e) :=
  performKnown (fun _ _ _ _ _ hp => hok _ _ _ hp) herror

/-- What is asked for is what is stored. -/
theorem performAutoCommit {q : Bool → Stored → List Exchange → Prop}
    (hok : ∀ v new, p v new → q v.autoCommit v (new ++ [.call .autoCommit (.ok v.autoCommit)]))
    (herror : ∀ v new f, p v new → e v (new ++ [.call .autoCommit (.error f)])) :
    Secures (Grown S t p) (d.traced.perform .autoCommit) (fun a => Grown S t (q a))
      (Grown S t e) := by
  refine performKnown (fun database new a after hcall hp => ?_) herror
  rw [S.autoCommit hcall]
  exact hok _ _ hp

theorem performIsolation {q : IsolationLevel → Stored → List Exchange → Prop}
    (hok : ∀ v new, p v new → q v.isolation v (new ++ [.call .isolation (.ok v.isolation)]))
    (herror : ∀ v new f, p v new → e v (new ++ [.call .isolation (.error f)])) :
    Secures (Grown S t p) (d.traced.perform .isolation) (fun b => Grown S t (q b))
      (Grown S t e) := by
  refine performKnown (fun database new b after hcall hp => ?_) herror
  rw [S.isolation hcall]
  exact hok _ _ hp

theorem log (s : Session (Traced σ)) (l : List LogEntry) (hs : Grown S t p s) :
    Grown S t p { s with log := l } :=
  hs

end Grown

/-! ## All but transactions -/

theorem StoredSince.refl (v : Stored) (t : List Exchange) : StoredSince v v t :=
  ⟨.inl rfl, .inl rfl⟩

theorem StoredSince.append {v w : Stored} {t : List Exchange} (h : StoredSince v w t)
    (t' : List Exchange) : StoredSince v w (t ++ t') :=
  ⟨h.1.append t', h.2.append t'⟩

theorem StoredSince.trans {v w u : Stored} {t t' : List Exchange} (h : StoredSince v w t)
    (h' : StoredSince w u t') : StoredSince v u (t ++ t') := by
  refine ⟨?_, h.2.trans h'.2⟩
  rcases h.1 with hw | ⟨hv, f, hf⟩
  · rcases h'.1 with hu | ⟨hw', f, hf⟩
    · exact .inl (hu.trans hw)
    · exact .inr ⟨hw.symm.trans hw', f, List.mem_append_right _ (hw ▸ hf)⟩
  · exact .inr ⟨hv, f, List.mem_append_left _ hf⟩

theorem Call.store_of_not_isTransactional {c : Call} (hc : c.isTransactional = false)
    (v : Stored) : c.store v = v := by
  cases c <;> first | rfl | cases hc

theorem storedSince_custody (S : StoredSettings d) (v : Stored) (t : List Exchange) :
    Custody d.traced fun _ => Grown S t (StoredSince v) :=
  Custody.of_calls Grown.log (fun _ _ _ hs => hs)
    (fun _ => Grown.ask fun _ _ _ h => h.append _)
    fun c hc => Grown.perform
      (fun w new a h => by
        rw [Call.store_of_not_isTransactional hc]
        exact h.append _)
      fun _ _ _ h => h.append _

/-! ## Transactions -/

/-- The isolation level while it may have been changed: it is known if there is nothing to go back
to, and else what to go back to is the level `b`. -/
def Reverting (b : IsolationLevel) (c : Option IsolationLevel) (v : Stored) (t : List Exchange) :
    Prop :=
  c = none ∧ IsolationSince b v t ∨ c = some b

theorem Reverting.append {b : IsolationLevel} {c : Option IsolationLevel} {v : Stored}
    {t : List Exchange} (h : Reverting b c v t) (t' : List Exchange) : Reverting b c v (t ++ t') :=
  h.imp_left fun ⟨hc, hb⟩ => ⟨hc, hb.append t'⟩

/-- Within a transaction that began at `v`: auto-commit is off. -/
structure Within (v : Stored) (a : Bool) (b : IsolationLevel) (c : Option IsolationLevel)
    (w : Stored) (t : List Exchange) : Prop where
  autoCommit : a = v.autoCommit
  isolation : b = v.isolation
  off : w.autoCommit = false
  level : Reverting v.isolation c w t

theorem Within.append {v : Stored} {a : Bool} {b : IsolationLevel} {c : Option IsolationLevel}
    {w : Stored} {t : List Exchange} (h : Within v a b c w t) (t' : List Exchange) :
    Within v a b c w (t ++ t') where
  autoCommit := h.autoCommit
  isolation := h.isolation
  off := h.off
  level := h.level.append t'

variable {S : StoredSettings d} {v : Stored} {t : List Exchange}

/-- Auto-commit has just been put back, or that has failed. The isolation level is next. -/
structure HalfRestored (v : Stored) (c : Option IsolationLevel) (w : Stored)
    (t : List Exchange) : Prop where
  last : ∃ before a r, t = before ++ [.call (.setAutoCommit a) r]
  autoCommit : AutoCommitSince v.autoCommit w t
  level : Reverting v.isolation c w t

theorem restored_autoCommit {a : Bool} {b : IsolationLevel} {c : Option IsolationLevel} :
    Secures (Grown S t (Within v a b c)) (d.traced.perform (.setAutoCommit a))
      (fun _ => Grown S t (HalfRestored v c)) (Grown S t (HalfRestored v c)) := by
  refine Grown.perform
    (fun w new _ h => ⟨⟨new, a, _, rfl⟩, .inl h.autoCommit, h.level.append [_]⟩)
    fun w new f h => ⟨⟨new, a, _, rfl⟩, ?_, h.level.append [_]⟩
  cases ha : v.autoCommit with
  | false => exact .inl h.off
  | true =>
      refine .inr ⟨rfl, f, ?_⟩
      rw [← h.autoCommit.trans ha]
      exact List.mem_append_right _ List.mem_cons_self

/-- So has the isolation level, if it was changed. -/
theorem restored_isolation {b : IsolationLevel} {c : Option IsolationLevel} (hc : c = some b) :
    Secures (Grown S t (HalfRestored v c)) (d.traced.perform (.setIsolation b))
      (fun _ => Grown S t (StoredSince v)) (Grown S t (StoredSince v)) := by
  refine Grown.perform (fun w new _ h => ?_) fun w new f h => ?_
  all_goals
    obtain ⟨⟨before, a, r, rfl⟩, ha, ⟨hn, -⟩ | hs⟩ := h
    · exact absurd (hn.symm.trans hc) nofun
    obtain rfl : b = v.isolation := Option.some.inj (hc.symm.trans hs)
  · exact ⟨ha.append [_], .inl rfl⟩
  · refine ⟨ha.append [_], .inr ⟨a, r, f, ?_⟩⟩
    rw [List.append_assoc]
    exact (List.suffix_append before _).isInfix

theorem restored_of_unchanged {c : Option IsolationLevel} (hc : c = none)
    (s : Session (Traced σ)) (hs : Grown S t (HalfRestored v c) s) :
    Grown S t (StoredSince v) s := by
  obtain ⟨new, ht, -, ha, ⟨-, hb⟩ | hsome⟩ := hs
  · exact ⟨new, ht, ha, hb⟩
  · exact absurd (hc.symm.trans hsome) nofun

theorem restored_afterwards {a : Bool} {b : IsolationLevel} {c : Option IsolationLevel} :
    Triple (Grown S t (Within v a b c)) (d.traced.restore a c)
      fun _ => Grown S t (StoredSince v) :=
  Driver.restore_triple Grown.log Grown.log restored_autoCommit (fun _ => restored_isolation)
    restored_of_unchanged

/-- A transaction has begun: auto-commit was switched off, and nothing else has changed. -/
structure Begun (v : Stored) (a : Bool) (b : IsolationLevel) (w : Stored) : Prop where
  stored : w = { v with autoCommit := false }
  autoCommit : a = v.autoCommit
  isolation : b = v.isolation

theorem Begun.within {a : Bool} {b : IsolationLevel} {w : Stored} (h : Begun v a b w)
    (t : List Exchange) : Within v a b none w t where
  autoCommit := h.autoCommit
  isolation := h.isolation
  off := congrArg Stored.autoCommit h.stored
  level := .inl ⟨rfl, .inl (by rw [h.stored])⟩

/-- The action of a transaction is one that leaves the settings, wherever it starts. -/
theorem within_act {act : Act (Traced σ) Error α}
    (h : ∀ x : Stored × List Exchange, Keeps (Grown S x.2 (StoredSince x.1)) act) {a : Bool}
    {b : IsolationLevel} {c : Option IsolationLevel} :
    Keeps (Grown S t (Within v a b c)) act := by
  refine Secures.of_run fun s ⟨new, ht, hw⟩ => ?_
  have hstart : Grown S s.trace (StoredSince (S.read s.database.database)) s :=
    ⟨[], (List.append_nil _).symm, StoredSince.refl _ _⟩
  obtain ⟨new', ht', ha, hb⟩ := (h (S.read s.database.database, s.trace)).run s hstart
  refine ⟨new ++ new', by rw [ht', ht, List.append_assoc], hw.autoCommit, hw.isolation, ?_, ?_⟩
  · rcases ha with ha | ⟨ha, -⟩
    · exact ha.trans hw.off
    · exact absurd (hw.off.symm.trans ha) nofun
  · exact hw.level.imp_left fun ⟨hc, hlevel⟩ => ⟨hc, hlevel.trans hb⟩

/-- What holds of the settings between the calls of a transaction. -/
def restoredOutline (S : StoredSettings d) (v : Stored) (t : List Exchange)
    (wanted : Option IsolationLevel) {act : Act (Traced σ) Error α}
    (h : ∀ x : Stored × List Exchange, Keeps (Grown S x.2 (StoredSince x.1)) act) :
    Outline d.traced wanted act (Grown S t fun w _ => w = v)
      (fun _ => Grown S t (StoredSince v)) (Grown S t (StoredSince v)) where
  asked a := Grown S t fun w _ => w = v ∧ a = v.autoCommit
  known a b := Grown S t fun w _ => w = v ∧ a = v.autoCommit ∧ b = v.isolation
  manual a b := Grown S t fun w _ => Begun v a b w
  unmarked a b := Grown S t (Within v a b none)
  marked a b _ := Grown S t fun w _ => Begun v a b w
  ready a b _ c := Grown S t (Within v a b c)
  worked a b _ c _ := Grown S t (Within v a b c)
  failing a b _ c := Grown S t (Within v a b c)
  committed a b c _ := Grown S t (Within v a b c)
  autoCommit := Grown.performAutoCommit (fun w _ hw => by subst hw; exact ⟨rfl, rfl⟩)
    fun w _ _ hw => by subst hw; exact StoredSince.refl _ _
  isolation a := Grown.performIsolation (fun w _ ⟨hw, ha⟩ => by subst hw; exact ⟨rfl, ha, rfl⟩)
    fun w _ _ ⟨hw, _⟩ => by subst hw; exact StoredSince.refl _ _
  setAutoCommit a b := Grown.perform (fun w _ _ ⟨hw, ha, hb⟩ => by subst hw; exact ⟨rfl, ha, hb⟩)
    fun w _ _ ⟨hw, _⟩ => by subst hw; exact StoredSince.refl _ _
  setSavepoint a b := Grown.perform (fun _ _ _ hw => hw) fun _ _ _ hw => hw.within _
  restore a b := restored_afterwards
  changeIsolation a b p := by
    refine Driver.changeIsolation_secures
      (A := fun _ _ => Grown S t fun w _ => Begun v a b w)
      (fun _ s ⟨new, ht, hw⟩ => ⟨new, ht, hw.within new⟩)
      (fun l _ _ => Grown.ask fun _ _ _ hw => hw)
      (fun l s ⟨new, ht, hw⟩ => ⟨new, ht, hw.within new⟩) fun l => ?_
    exact Grown.perform (fun w _ _ hw => ⟨hw.autoCommit, hw.isolation,
      congrArg Stored.autoCommit hw.stored, .inr (congrArg some hw.isolation)⟩)
      fun _ _ _ hw => hw.within _
  act a b p c := within_act h
  commit a b p c x := Grown.perform (fun _ _ _ hw => hw.append _) fun _ _ _ hw => hw.append _
  putBack a b c x := Driver.putBack_secures (M := fun _ => Grown S t (HalfRestored v c))
    (R := fun _ => Grown S t (StoredSince v)) restored_autoCommit
    (fun _ hc _ => restored_isolation hc) fun hc _ => restored_of_unchanged hc
  log a b p c s l hs := hs
  abort a b p c := by
    have keep (call : Call) (hcall : ∀ w, call.store w = w) :
        Keeps (Grown S t (Within v a b c)) (d.traced.perform call) :=
      Grown.perform (fun _ _ _ hw => by rw [hcall]; exact hw.append _) fun _ _ _ hw => hw.append _
    refine Triple.bind (Secures.orWarn Grown.log (keep (.rollbackTo p) fun _ => rfl)) fun _ => ?_
    refine Triple.bind (Secures.orWarn Grown.log (keep (.releaseSavepoint p) fun _ => rfl))
      fun _ => ?_
    exact restored_afterwards

/-! ## All runs -/

theorem storedSince_stewardship (S : StoredSettings d) :
    Stewardship d.traced fun (x : Stored × List Exchange) _ => Grown S x.2 (StoredSince x.1) where
  custody x := storedSince_custody S x.1 x.2
  transaction {α act} wanted h x L := by
    -- the settings from before the transaction are those that it goes back to
    refine Secures.of_run fun s ⟨new, ht, hs⟩ => ?_
    have hstart : Grown S s.trace (fun w _ => w = S.read s.database.database) s :=
      ⟨[], (List.append_nil _).symm, rfl⟩
    have hrun := (restoredOutline S (S.read s.database.database) s.trace wanted
      fun x => h x L).secures.run
    obtain ⟨new', ht', hs'⟩ := hrun s hstart
    exact ⟨new ++ new', by rw [ht', ht, List.append_assoc], hs.trans hs'⟩

/-- Whatever the driver does, and whichever steps a client takes through the library: afterwards
auto-commit and the isolation level are what they were before. Only a call that was to put back
the very setting may have failed to do so: auto-commit is switched on for nothing else, and the
isolation level is put back right after auto-commit. -/
theorem settings_restored (S : StoredSettings d) (database : σ) (gateway : Gateway)
    {steps : List (Step (Traced σ) α)} (hs : ∀ step ∈ steps, step.isLibrary = true) :
    let session := ((Client.watched database gateway).after d.traced steps).session
    let before := S.read database
    let after := S.read session.database.database
    (after.autoCommit = before.autoCommit ∨ before.autoCommit = true ∧
        ∃ f, .call (.setAutoCommit before.autoCommit) (.error f) ∈ session.trace) ∧
      (after.isolation = before.isolation ∨ ∃ a r f,
        [.call (.setAutoCommit a) r, .call (.setIsolation before.isolation) (.error f)] <:+:
          session.trace) := by
  intro session before after
  have hstart : Grown S [] (StoredSince before) { database := { database } } :=
    ⟨[], rfl, StoredSince.refl _ _⟩
  have hk := (storedSince_stewardship S).after (before, []) hs
    (Client.watched_keeping gateway hstart)
  obtain ⟨new, ht, hsince⟩ := hk.open_
  rw [List.nil_append] at ht
  rw [show session.trace = new from ht]
  exact hsince

open Database in
/-- Two rows at another isolation level, where neither the commit nor the rollback succeeds. -/
theorem settings_restored_failed_rollback :
    let steps : List (Step (Traced Scripted) Unit) :=
      [.update ⟨"INSERT", [[.null], [.null]], { isolation := some .serializable }⟩]
    let database : Scripted :=
      { faults := [{ call := "commit", failure := .plain "lost" },
          { call := "rollback_to", failure := .plain "lost" }] }
    let session := ((Client.watched database {}).after Scripted.driver.traced steps).session
    let before := Scripted.settings.read database
    let after := Scripted.settings.read session.database.database
    (after.autoCommit = before.autoCommit ∨ before.autoCommit = true ∧
        ∃ f, .call (.setAutoCommit before.autoCommit) (.error f) ∈ session.trace) ∧
      (after.isolation = before.isolation ∨ ∃ a r f,
        [.call (.setAutoCommit a) r, .call (.setIsolation before.isolation) (.error f)] <:+:
          session.trace) := by
  intro steps database
  have hs : ∀ step ∈ steps, step.isLibrary = true := by
    intro step hmem
    cases List.mem_singleton.mp hmem
    rfl
  exact settings_restored Scripted.settings database {} hs

end SqlGateway
