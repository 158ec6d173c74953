import SqlGateway.Proofs.Conduct.Traced
import SqlGateway.Proofs.Text.LowerCase

/-!
# What is prepared

A statement that is prepared for an operation has a normalized text and goes by the kind of that
text, and generated keys are asked for where they are wanted.
-/

namespace SqlGateway

open Sql Text

variable {σ α : Type}

/-! ## Words of data changes -/

theorem Sql.isDml_eq_false_iff {sql : String} :
    isDml sql = false ↔ ∀ keyword ∈ dmlKeywords, ¬ keyword <:+: lower sql.toList := by
  simp only [isDml, List.any_eq_false, Text.occurs_iff]

theorem Sql.isDml_of_classify {sql : String} (h : classify sql = .select) : isDml sql = false := by
  unfold classify at h
  split at h
  · cases h
  · split at h
    · cases h
    · rename_i hdml
      simpa using hdml

theorem Sql.isProcedureCall_of_classify {sql : String} (h : classify sql = .procedureCall) :
    isProcedureCall sql = true := by
  unfold classify at h
  split at h
  · assumption
  · split at h <;> cases h

theorem Sql.classify_of_isProcedureCall {sql : String} (h : isProcedureCall sql = true) :
    classify sql = .procedureCall :=
  if_pos h

/-! ## Requests -/

/-- Whether an operation is an update that is executed for its generated keys. -/
def Operation.wantsKeys : Operation α → Bool
  | .update _ _ _ use => use.keyed
  | _ => false

/-- The request has a clean text, the kind of that text, and keys if the operation wants them. -/
structure Request.Labelled (r : Request) (keyed : Bool) : Prop where
  clean : normalize r.sql = .ok r.sql
  kind : r.kind = classify r.sql
  keyed : r.keyed = keyed

theorem normalize_buildUpdate {g : Gateway} {sql : String} {values : UpdateValues} {u : Update}
    (h : Client.buildUpdate g sql values = .ok u) :
    normalize u.sql = .ok u.sql ∧ classify u.sql = .dml := by
  cases values with
  | single params =>
      obtain ⟨row, hbuild, -, hkind⟩ := Gateway.update_eq_ok h
      exact ⟨Gateway.normalize_build hbuild, hkind⟩
  | rows rows =>
      obtain ⟨hclean, -, hkind, -⟩ := Gateway.updateBatch_eq_ok h
      exact ⟨normalize_of_normal (normal_of_normalize hclean), hkind⟩
  | namedRows rows =>
      obtain ⟨clean, hclean, hkind, hnone, hrows⟩ := Gateway.updateNamedBatch_eq_ok h
      refine ⟨?_, hkind⟩
      generalize u.rows = resolved at hrows
      cases hrows with
      | nil =>
          rw [hnone rfl]
          exact normalize_of_normal (normal_of_normalize hclean)
      | cons hrow _ => exact normalize_resolve hclean hrow

theorem normalize_call {g : Gateway} {sql : String} {params : List Parameter} {c : ProcedureCall α}
    (h : g.call sql params = .ok c) :
    normalize c.sql = .ok c.sql ∧ classify c.sql = .procedureCall := by
  obtain ⟨clean, hclean, hcall, -, hstyle⟩ := Gateway.call_eq_ok h
  refine ⟨?_, classify_of_isProcedureCall hcall⟩
  rcases hstyle with ⟨-, -, hsql, -⟩ | ⟨-, -, hresolved⟩
  · rw [hsql]
    exact normalize_of_normal (normal_of_normalize hclean)
  · exact normalize_resolve hclean hresolved

theorem request_labelled {g : Gateway} {operation : Operation α} {r : Request}
    (h : operation.request g = .ok (some r)) : r.Labelled operation.wantsKeys := by
  cases operation with
  | select sql params setup use =>
      obtain ⟨s, hs, hr⟩ := map_eq_ok h
      obtain ⟨hbuild, hkind⟩ := Gateway.select_eq_ok hs
      cases hr
      exact ⟨Gateway.normalize_build hbuild, hkind.symm, rfl⟩
  | update sql values setup use =>
      obtain ⟨u, hu, hr⟩ := map_eq_ok h
      obtain ⟨hclean, hkind⟩ := normalize_buildUpdate hu
      cases hr
      exact ⟨hclean, hkind.symm, rfl⟩
  | call sql params setup handler use =>
      obtain ⟨c, hc, hr⟩ := map_eq_ok h
      obtain ⟨hclean, hkind⟩ := normalize_call hc
      cases hr
      exact ⟨hclean, hkind.symm, rfl⟩
  | execute sql params wanted =>
      obtain ⟨query, hquery, hr⟩ := map_eq_ok h
      cases hr
      exact ⟨Gateway.normalize_build hquery, rfl, rfl⟩
  | _ => cases h

/-! ## Prepared statements -/

/-- What an operation prepares is clean and goes by its own kind. Nothing is run as a select that
has a word of a data change in it, or as a call that is none. -/
structure Operation.Prepares (operation : Operation α) (sql : String) (kind : StatementKind)
    (keys : GeneratedKeys) : Prop where
  clean : normalize sql = .ok sql
  kind_eq : kind = classify sql
  keys_iff : keys.isRequested = true ↔ operation.wantsKeys = true
  select : kind = .select → ∀ keyword ∈ dmlKeywords, ¬ keyword <:+: lower sql.toList
  call : kind = .procedureCall → isProcedureCall sql = true

theorem prepares_of_serves {g : Gateway} {operation : Operation α} {q : Option Request}
    (hq : operation.request g = .ok q) {i : StatementId} {sql : String} {kind : StatementKind}
    {keys : GeneratedKeys} (h : Call.Serves q (.prepare i sql kind keys)) :
    operation.Prepares sql kind keys := by
  obtain ⟨r, hr, hsql, hkind, hkeys⟩ := h
  obtain rfl : q = some r := hr
  obtain ⟨hclean, hclass, hwants⟩ := request_labelled hq
  rw [← hsql] at hclean hclass
  have hkind : kind = classify sql := hkind.trans hclass
  refine ⟨hclean, hkind, by rw [hkeys, hwants], fun hselect => ?_, fun hcall => ?_⟩
  · exact isDml_eq_false_iff.mp (isDml_of_classify (hkind.symm.trans hselect))
  · exact isProcedureCall_of_classify (hkind.symm.trans hcall)

/-- All that is prepared in what has passed, for the operation. -/
def Operation.PreparesIn (operation : Operation α) (u : List Exchange) : Prop :=
  ∀ i sql kind keys answer, .call (.prepare i sql kind keys) answer ∈ u →
    operation.Prepares sql kind keys

theorem step_prepares (d : Driver σ) (client : Client (Traced σ) α) (operation : Operation α) :
    ∃ u, (client.step d.traced (.operation operation)).2.session.trace =
      client.session.trace ++ u ∧ operation.PreparesIn u := by
  cases hq : operation.request client.gateway with
  | error e =>
      rw [operate_unserved hq]
      exact ⟨[], (List.append_nil _).symm, fun _ _ _ _ _ hx => absurd hx List.not_mem_nil⟩
  | ok q =>
      obtain ⟨u, hu, hserves, -⟩ := operate_served (d := d) hq
      exact ⟨u, hu, fun i _ _ _ _ hx => prepares_of_serves (i := i) hq (hserves _ hx)⟩

/-- Whatever operations are done one after another, each statement that is prepared for one of them
has a clean text and goes by the kind of that text. -/
theorem prepared_clean (d : Driver σ) (client : Client (Traced σ) α)
    (operations : List (Operation α)) :
    ∃ parts : List (List Exchange),
      (client.after d.traced (operations.map .operation)).session.trace =
        client.session.trace ++ parts.flatten ∧
      List.Forall₂ Operation.PreparesIn operations parts := by
  induction operations generalizing client with
  | nil => exact ⟨[], (List.append_nil _).symm, .nil⟩
  | cons operation operations ih =>
      obtain ⟨u, hu, hprepares⟩ := step_prepares d client operation
      obtain ⟨parts, hparts, hall⟩ := ih (client.step d.traced (.operation operation)).2
      refine ⟨u :: parts, ?_, .cons hprepares hall⟩
      rw [List.flatten_cons, ← List.append_assoc, ← hu]
      exact hparts

end SqlGateway
