/-!
# Registries

What is kept under keys, each key at most once, in the order in which the keys came.
-/

namespace SqlGateway

variable {κ α : Type} [DecidableEq κ]

abbrev Registry (κ α : Type) := List (κ × α)

namespace Registry

def get? (key : κ) : Registry κ α → Option α
  | [] => none
  | (k, a) :: r => if k = key then some a else get? key r

/-- Keeps something under a key, in place of what was there. -/
def put (key : κ) (a : α) : Registry κ α → Registry κ α
  | [] => [(key, a)]
  | (k, b) :: r => if k = key then (key, a) :: r else (k, b) :: put key a r

def remove (key : κ) : Registry κ α → Registry κ α
  | [] => []
  | (k, a) :: r => if k = key then r else (k, a) :: remove key r

/-! ## Totals -/

/-- The sum of a measure over everything that is kept. -/
def total (f : α → Nat) : Registry κ α → Nat
  | [] => 0
  | (_, a) :: r => f a + total f r

theorem total_put_le (f : α → Nat) (key : κ) (a : α) (r : Registry κ α) :
    total f (put key a r) ≤ total f r + f a := by
  induction r with
  | nil => simp [put, total]
  | cons e r ih =>
    obtain ⟨k, b⟩ := e
    simp only [put]
    split <;> simp only [total] <;> omega

theorem total_put (f : α → Nat) (key : κ) (a : α) (default : α) (hd : f default = 0)
    (r : Registry κ α) :
    total f (put key a r) + f ((get? key r).getD default) = total f r + f a := by
  induction r with
  | nil => simp [put, get?, total, hd]
  | cons e r ih =>
    obtain ⟨k, b⟩ := e
    simp only [put, get?]
    split
    · simp only [total, Option.getD_some]
      omega
    · simp only [total]
      omega

/-! ## Entries -/

def keys (r : Registry κ α) : List κ :=
  r.map (·.1)

theorem get?_put (key : κ) (a : α) (r : Registry κ α) : get? key (put key a r) = some a := by
  induction r with
  | nil => simp only [put, get?, if_true]
  | cons e r ih =>
    obtain ⟨k, b⟩ := e
    simp only [put]
    split
    · simp only [get?, if_true]
    · rename_i hk
      simp only [get?, if_neg hk, ih]

theorem get?_put_of_ne {key k : κ} (h : key ≠ k) (a : α) (r : Registry κ α) :
    get? k (put key a r) = get? k r := by
  induction r with
  | nil => simp only [put, get?, if_neg h]
  | cons e r ih =>
    obtain ⟨k', b⟩ := e
    simp only [put]
    split
    · rename_i hk
      subst hk
      simp only [get?, if_neg h]
    · simp only [get?, ih]

theorem get?_eq_none {key : κ} {r : Registry κ α} : get? key r = none ↔ key ∉ keys r := by
  induction r with
  | nil => simp [get?, keys]
  | cons e r ih =>
    obtain ⟨k, b⟩ := e
    simp only [get?, keys, List.map_cons, List.mem_cons, not_or]
    split
    · rename_i hk
      simp [hk]
    · rename_i hk
      rw [ih]
      exact ⟨fun h => ⟨fun e => hk e.symm, h⟩, And.right⟩

theorem remove_of_get? {key : κ} {r : Registry κ α} (h : get? key r = none) :
    remove key r = r := by
  induction r with
  | nil => rfl
  | cons e r ih =>
    obtain ⟨k, b⟩ := e
    simp only [get?] at h
    split at h
    · cases h
    · rename_i hk
      simp only [remove, if_neg hk, ih h]

theorem perm_of_get? {key : κ} {a : α} {r : Registry κ α} (h : get? key r = some a) :
    r.Perm ((key, a) :: remove key r) := by
  induction r with
  | nil => cases h
  | cons e r ih =>
    obtain ⟨k, b⟩ := e
    simp only [get?] at h
    simp only [remove]
    split at h
    · rename_i hk
      cases h
      rw [if_pos hk, hk]
    · rename_i hk
      rw [if_neg hk]
      exact ((ih h).cons _).trans (List.Perm.swap _ _ _)

theorem put_perm (key : κ) (a : α) (r : Registry κ α) :
    (put key a r).Perm ((key, a) :: remove key r) := by
  induction r with
  | nil => exact List.Perm.refl _
  | cons e r ih =>
    obtain ⟨k, b⟩ := e
    simp only [put, remove]
    split
    · exact List.Perm.refl _
    · exact (ih.cons _).trans (List.Perm.swap _ _ _)

/-! ## Each key at most once -/

theorem nodup_cons_remove {r : Registry κ α} (h : (keys r).Nodup) (key : κ) :
    (key :: keys (remove key r)).Nodup := by
  cases hg : get? key r with
  | none =>
    rw [remove_of_get? hg]
    exact List.nodup_cons.mpr ⟨get?_eq_none.mp hg, h⟩
  | some a => exact ((perm_of_get? hg).map Prod.fst).nodup_iff.mp h

theorem nodup_put {r : Registry κ α} (h : (keys r).Nodup) (key : κ) (a : α) :
    (keys (put key a r)).Nodup :=
  ((put_perm key a r).map Prod.fst).nodup_iff.mpr (nodup_cons_remove h key)

theorem nodup_remove {r : Registry κ α} (h : (keys r).Nodup) (key : κ) :
    (keys (remove key r)).Nodup :=
  (List.nodup_cons.mp (nodup_cons_remove h key)).2

theorem remove_remove {r : Registry κ α} (h : (keys r).Nodup) (key : κ) :
    remove key (remove key r) = remove key r :=
  remove_of_get? (get?_eq_none.mpr (List.nodup_cons.mp (nodup_cons_remove h key)).1)

end Registry

end SqlGateway
