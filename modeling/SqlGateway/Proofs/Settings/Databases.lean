import SqlGateway.Database.Scripted.Driver
import SqlGateway.Proofs.Memory.Calls

/-!
# Where the databases store their settings
-/

namespace SqlGateway.Database

/-! ## Scripted databases -/

namespace Scripted

def stored (db : Scripted) : Stored :=
  ⟨db.autoCommit, db.isolation⟩

theorem stored_take (db : Scripted) (i : StatementId) : (db.take i).2.stored = db.stored := by
  unfold take
  split <;> rfl

theorem stored_takeEach (db : Scripted) (i : StatementId) (n : Nat) :
    (db.takeEach i n).2.stored = db.stored := by
  induction n generalizing db with
  | zero => rfl
  | succ n ih =>
      have ht := db.stored_take i
      unfold takeEach
      split
      · rename_i h
        rwa [h] at ht
      · rename_i h
        rw [h] at ht
        exact (ih _).trans ht

theorem stored_execute (db : Scripted) (i : StatementId) :
    (db.execute i).2.stored = db.stored := by
  have ht := db.stored_take i
  unfold execute
  split <;> rename_i h <;> rw [h] at ht <;> exact ht

theorem stored_countBatch (db : Scripted) (i : StatementId) :
    (db.countBatch i).2.stored = db.stored := by
  have ht := (db.putStatement i { db.statement i with added := 0 }).stored_takeEach i
    (db.statement i).added
  unfold countBatch
  dsimp only
  split <;> rename_i h <;> rw [h] at ht <;> exact ht

theorem stored_openCursor (db : Scripted) (i : StatementId) (c : CursorId) :
    (db.openCursor i c).2.stored = db.stored := by
  unfold openCursor
  dsimp only
  split <;> rfl

theorem stored_effect (db : Scripted) {c : Call} (hc : c.setsStored = false) :
    (db.effect c).2.stored = db.stored := by
  cases c with
  | setAutoCommit | setIsolation => cases hc
  | execute i => exact stored_execute db i
  | executeUpdate i => exact stored_take db i
  | executeLargeUpdate i => exact stored_take db i
  | executeBatch i => exact stored_countBatch db i
  | executeLargeBatch i => exact stored_countBatch db i
  | resultCursor i c => exact stored_openCursor db i c
  | _ => rfl

theorem stored_attempt (db : Scripted) {c : Call} (hc : c.setsStored = false) :
    (attempt c db).2.stored = db.stored := by
  unfold attempt
  dsimp only
  split
  · rfl
  · exact stored_effect _ hc

theorem stored_attemptKnown (db : Scripted) {c : Call} (hc : c.setsStored = false) :
    (attemptKnown c db).2.stored = db.stored := by
  unfold attemptKnown
  split
  · rfl
  · exact stored_attempt db hc

theorem stored_call (db : Scripted) {c : Call} (hc : c.setsStored = false) :
    (call c db).2.stored = db.stored := by
  cases c with
  | setAutoCommit | setIsolation => cases hc
  | executeLargeUpdate i =>
      simp only [call]
      split
      · exact stored_attempt db rfl
      · exact stored_attempt db (c := .executeUpdate i) rfl
  | executeLargeBatch i =>
      simp only [call]
      split
      · exact stored_attempt db rfl
      · exact stored_attemptKnown db (c := .executeBatch i) rfl
  | moreResults i =>
      simp only [call]
      split
      · rfl
      · exact stored_attempt db rfl
  | getBinaryStream k index =>
      simp only [call]
      split
      · exact stored_attempt db rfl
      · exact stored_attempt db (c := .getObject k index) rfl
  | getCharacterStream k index =>
      simp only [call]
      split
      · exact stored_attempt db rfl
      · exact stored_attempt db (c := .getObject k index) rfl
  | _ => exact stored_attemptKnown db rfl

theorem stored_probe (db : Scripted) (p : Probe) : (probe p db).2.stored = db.stored := by
  unfold probe
  split <;> rfl

/-- Calls on the settings are known in every profile. -/
theorem call_of_settings (db : Scripted) {c : Call}
    (hc : c.setsStored = true ∨ c = .autoCommit ∨ c = .isolation) : call c db = attempt c db := by
  have known : call c db = attemptKnown c db := by
    rcases hc with hc | rfl | rfl
    · cases c <;> first | rfl | cases hc
    · rfl
    · rfl
  have missing : db.profile.missing c = none := by
    generalize db.profile = profile
    rcases hc with hc | rfl | rfl
    · cases c <;> cases profile <;> first | rfl | cases hc
    all_goals cases profile <;> rfl
  rw [known]
  unfold attemptKnown
  rw [missing]

/-- Such a call fails as planned, or does what it is to do. -/
theorem call_settings_inv {c : Call} (hc : c.setsStored = true ∨ c = .autoCommit ∨ c = .isolation)
    {db db' : Scripted} {r : Except Failure c.Answer} (h : driver.call c db = (r, db')) :
    (∃ f, r = .error f ∧ db'.stored = db.stored) ∨
      ∃ db₁ : Scripted, db₁.effect c = (r, db') ∧ db₁.stored = db.stored := by
  rw [show driver.call c db = attempt c db from call_of_settings db hc] at h
  unfold attempt at h
  dsimp only at h
  split at h
  · cases h
    exact .inl ⟨_, rfl, rfl⟩
  · exact .inr ⟨_, h, rfl⟩

theorem stored_of_failed {c : Call} {db db' : Scripted} {f : Failure}
    (h : driver.call c db = (.error f, db')) : db'.stored = db.stored := by
  cases hc : c.setsStored with
  | false =>
      have := stored_call db hc
      rwa [show call c db = _ from h] at this
  | true =>
      rcases call_settings_inv (.inl hc) h with ⟨f, hr, hs⟩ | ⟨db₁, he, hs⟩
      · exact hs
      · cases c <;> cases hc <;> cases he

def settings : StoredSettings driver where
  read := stored
  probe p db := stored_probe db p
  other _ db hc := stored_call db hc
  failed := stored_of_failed
  setAutoCommit {a _ _ _} h := by
    rcases call_settings_inv (.inl rfl) h with ⟨f, hr, _⟩ | ⟨db₁, he, hs⟩
    · cases hr
    · cases he
      exact congrArg (fun v : Stored => { v with autoCommit := a }) hs
  setIsolation {b _ _ _} h := by
    rcases call_settings_inv (.inl rfl) h with ⟨f, hr, _⟩ | ⟨db₁, he, hs⟩
    · cases hr
    · cases he
      exact congrArg (fun v : Stored => { v with isolation := b }) hs
  autoCommit h := by
    rcases call_settings_inv (.inr (.inl rfl)) h with ⟨f, hr, _⟩ | ⟨db₁, he, hs⟩
    · cases hr
    · cases he
      exact congrArg Stored.autoCommit hs
  isolation h := by
    rcases call_settings_inv (.inr (.inr rfl)) h with ⟨f, hr, _⟩ | ⟨db₁, he, hs⟩
    · cases hr
    · cases he
      exact congrArg Stored.isolation hs

end Scripted

/-! ## In-memory databases -/

namespace Memory

theorem stored_call (db : Memory) {c : Call} (hc : c.setsStored = false) :
    (call c db).2.stored = db.stored := by
  cases ht : c.isTransactional with
  | false => exact congrArg Surroundings.stored (surroundings_call db ht)
  | true =>
      cases c with
      | setAutoCommit | setIsolation => cases hc
      | rollbackTo savepoint =>
          simp only [call, rollbackTo]
          split <;> rfl
      | autoCommit | isolation | setSavepoint | releaseSavepoint | commit => rfl
      | _ => cases ht

theorem stored_of_failed {c : Call} {db db' : Memory} {f : Failure}
    (h : driver.call c db = (.error f, db')) : db'.stored = db.stored := by
  cases hc : c.setsStored with
  | false =>
      have := stored_call db hc
      rwa [show call c db = _ from h] at this
  | true =>
      cases c with
      | setAutoCommit enabled =>
          change db.switchAutoCommit enabled = (.error f, db') at h
          unfold switchAutoCommit at h
          dsimp only at h
          split at h <;> cases h
          rfl
      | setIsolation level => cases h
      | _ => cases hc

def settings : StoredSettings driver where
  read := stored
  probe p db := by cases p <;> rfl
  other _ db hc := stored_call db hc
  failed := stored_of_failed
  setAutoCommit {a db u db'} h := by
    change db.switchAutoCommit a = (.ok u, db') at h
    unfold switchAutoCommit at h
    dsimp only at h
    split at h <;> cases h
    rfl
  setIsolation h := by
    cases h
    rfl
  autoCommit h := by
    cases h
    rfl
  isolation h := by
    cases h
    rfl

end Memory

end SqlGateway.Database
