import SqlGateway.Gateway.Run
import SqlGateway.Proofs.Conduct.Prepared
import SqlGateway.Proofs.Gateway.Build

/-!
# Texts of any kind

A gateway that is given a text of any kind does what the builder for that kind would have had it do.
It refuses the same texts for the same reasons. What it runs is the same act, so neither the driver
nor a reader of the cursor that comes out can tell the two apart.
-/

namespace SqlGateway

open Sql

/-- The values of parameters that have no names. -/
def Params.values? : Params → Option (List Value)
  | .none => Option.some []
  | .positional values => Option.some values
  | .named _ => Option.none

namespace Sql

theorem checkUniform_inputs (values : List Value) :
    checkUniform (values.map Parameter.input) = .ok () := by
  unfold checkUniform
  have hnamed : (values.map Parameter.input).any Parameter.isNamed = false := by
    simp [Parameter.input, Parameter.isNamed]
  simp [hnamed]

theorem resolveCall_inputs (clean : String) (values : List Value) :
    resolveCall clean (values.map Parameter.input) = .ok ⟨clean, values.map Parameter.input⟩ := by
  unfold resolveCall
  rw [checkUniform_inputs]
  cases values with
  | nil => rfl
  | cons value values => rfl

end Sql

namespace Gateway

variable {σ τ : Type} {g : Gateway} {raw : String} {params : Params} {query : Resolved Value}
  {e : Error}

/-! ## What each builder makes of a text that builds -/

theorem select_of_build (h : build raw params = .ok query) (hkind : classify query.sql = .select) :
    g.select raw params = .ok ⟨g.provider, query, g.options⟩ := by
  unfold select
  rw [h]
  simp [bind, Except.bind, pure, Except.pure, expectKind_eq_ok_iff.mpr hkind]

theorem update_of_build (h : build raw params = .ok query) (hkind : classify query.sql = .dml) :
    g.update raw params = .ok ⟨g.provider, query.sql, [query.values], g.options⟩ := by
  unfold update
  rw [h]
  simp [bind, Except.bind, pure, Except.pure, expectKind_eq_ok_iff.mpr hkind]

/-- Values without names are checked by a call as they are by a build. -/
theorem call_eq_build {values : List Value} (hvalues : params.values? = some values) :
    (g.call raw (values.map Parameter.input) : Except Error (ProcedureCall τ)) =
      build raw params >>= fun query =>
        if isProcedureCall query.sql then
          .ok ⟨g.provider, query.sql, query.values.map Parameter.input, g.options, none⟩
        else .error (.misuse (.notCall query.sql)) := by
  unfold call build
  cases normalize raw with
  | error e => rfl
  | ok clean =>
      have hnamed : (values.map Parameter.input).all (!·.isNamed) = true := by
        simp [Parameter.input, Parameter.isNamed]
      cases params with
      | none =>
          cases hvalues
          rfl
      | positional =>
          cases hvalues
          simp only [bind, Except.bind, hnamed, if_true, List.length_map, resolveCall_inputs]
          cases checkPositional clean values.length with
          | error e => rfl
          | ok _ => rfl
      | named bindings => cases hvalues

theorem call_of_build {values : List Value} (hvalues : params.values? = some values)
    (h : build raw params = .ok query) (hkind : classify query.sql = .procedureCall) :
    (g.call raw (values.map Parameter.input) : Except Error (ProcedureCall τ)) =
      .ok ⟨g.provider, query.sql, query.values.map Parameter.input, g.options, none⟩ := by
  rw [call_eq_build hvalues, h]
  simp [bind, Except.bind, isProcedureCall_of_classify hkind]

/-! ## Texts that do not build -/

theorem select_of_refused (h : build raw params = .error e) : g.select raw params = .error e := by
  unfold select
  rw [h]
  rfl

theorem update_of_refused (h : build raw params = .error e) : g.update raw params = .error e := by
  unfold update
  rw [h]
  rfl

theorem call_of_refused {values : List Value} (hvalues : params.values? = some values)
    (h : build raw params = .error e) :
    (g.call raw (values.map Parameter.input) : Except Error (ProcedureCall τ)) = .error e := by
  rw [call_eq_build hvalues, h]
  rfl

/-! ## What is run -/

section

variable (d : Driver σ)

theorem execute_of_refused (h : build raw params = .error e) :
    (g.execute d raw params : Act σ Error (Outcome τ)) = throw e := by
  unfold execute
  rw [h]
  rfl

theorem execute_of_select (h : build raw params = .ok query)
    (hkind : classify query.sql = .select) :
    (g.execute d raw params : Act σ Error (Outcome τ)) =
      .rows <$> (Select.mk g.provider query g.options).execute d := by
  unfold execute
  rw [h, map_eq_pure_bind]
  simp [MonadExcept.ofExcept, hkind]

theorem execute_of_dml (h : build raw params = .ok query) (hkind : classify query.sql = .dml) :
    (g.execute d raw params : Act σ Error (Outcome τ)) =
      .rowCount <$> (Update.mk g.provider query.sql [query.values] g.options).execute d := by
  unfold execute
  rw [h, map_eq_pure_bind]
  simp [MonadExcept.ofExcept, hkind]

theorem execute_of_call (h : build raw params = .ok query)
    (hkind : classify query.sql = .procedureCall) :
    (g.execute d raw params : Act σ Error (Outcome τ)) =
      .rows <$> (ProcedureCall.mk g.provider query.sql (query.values.map Parameter.input) g.options
        none).execute d := by
  unfold execute
  rw [h, map_eq_pure_bind]
  simp [MonadExcept.ofExcept, hkind]

end

/-- A text of any kind is run as the builder for its kind has it run. One that does not build is
refused, before any call to the driver, with the error of every builder. -/
theorem execute_eq_builder (g : Gateway) (d : Driver σ) (raw : String) (params : Params) :
    (∀ query, build raw params = .ok query →
      (classify query.sql = .select → ∃ q, g.select raw params = .ok q ∧
        (g.execute d raw params : Act σ Error (Outcome τ)) = .rows <$> q.execute d) ∧
      (classify query.sql = .dml → ∃ u, g.update raw params = .ok u ∧
        (g.execute d raw params : Act σ Error (Outcome τ)) = .rowCount <$> u.execute d) ∧
      (classify query.sql = .procedureCall → ∀ values, params.values? = some values →
        ∃ c, g.call raw (values.map Parameter.input) = .ok c ∧
          (g.execute d raw params : Act σ Error (Outcome τ)) = .rows <$> c.execute d)) ∧
    (∀ e, build raw params = .error e →
      (g.execute d raw params : Act σ Error (Outcome τ)) = throw e ∧
      g.select raw params = .error e ∧ g.update raw params = .error e ∧
      ∀ values, params.values? = some values →
        (g.call raw (values.map Parameter.input) : Except Error (ProcedureCall τ)) = .error e) := by
  refine ⟨fun query h => ⟨fun hkind => ?_, fun hkind => ?_, fun hkind values hvalues => ?_⟩,
    fun e h => ?_⟩
  · exact ⟨_, select_of_build h hkind, execute_of_select d h hkind⟩
  · exact ⟨_, update_of_build h hkind, execute_of_dml d h hkind⟩
  · exact ⟨_, call_of_build hvalues h hkind, execute_of_call d h hkind⟩
  · exact ⟨execute_of_refused d h, select_of_refused h, update_of_refused h,
      fun values hvalues => call_of_refused hvalues h⟩

/-- Each kind of text once, and a text that is none. -/
theorem execute_eq_builder_kinds :
    build "select a" .none = .ok ⟨"select a", []⟩ ∧ classify "select a" = .select ∧
    build "delete ?" (.positional [.int 1]) = .ok ⟨"delete ?", [.int 1]⟩ ∧
    classify "delete ?" = .dml ∧
    build "call p" (.positional [.int 1]) = .ok ⟨"call p", [.int 1]⟩ ∧
    classify "call p" = .procedureCall ∧
    build "call p */" .none = .error (.malformed (.delimiterCount 0 1)) ∧
    ∀ d : Driver Unit,
      (∃ q, ({} : Gateway).select "select a" .none = .ok q ∧
        (({} : Gateway).execute d "select a" .none : Act Unit Error (Outcome Empty)) =
          .rows <$> q.execute d) ∧
      (∃ u, ({} : Gateway).update "delete ?" (.positional [.int 1]) = .ok u ∧
        (({} : Gateway).execute d "delete ?" (.positional [.int 1]) :
          Act Unit Error (Outcome Empty)) = .rowCount <$> u.execute d) ∧
      (∃ c, ({} : Gateway).call "call p" ([.int 1].map Parameter.input) = .ok c ∧
        (({} : Gateway).execute d "call p" (.positional [.int 1]) :
          Act Unit Error (Outcome Empty)) = .rows <$> c.execute d) ∧
      (({} : Gateway).execute d "call p */" .none : Act Unit Error (Outcome Empty)) =
        throw (.malformed (.delimiterCount 0 1)) := by
  have hselect : build "select a" .none = .ok ⟨"select a", []⟩ := rfl
  have hdelete : build "delete ?" (.positional [.int 1]) = .ok ⟨"delete ?", [.int 1]⟩ :=
    build_positional rfl (checkPositional_eq_ok_iff.mpr fun _ => by decide +kernel)
  have hcall : build "call p" (.positional [.int 1]) = .ok ⟨"call p", [.int 1]⟩ :=
    build_positional rfl (checkPositional_eq_ok_iff.mpr fun _ => by decide +kernel)
  have hopen : build "call p */" .none = .error (.malformed (.delimiterCount 0 1)) := rfl
  have kselect : classify "select a" = .select := by decide
  have kdelete : classify "delete ?" = .dml := by decide
  have kcall : classify "call p" = .procedureCall := by decide
  refine ⟨hselect, kselect, hdelete, kdelete, hcall, kcall, hopen, fun d => ⟨?_, ?_, ?_, ?_⟩⟩
  · exact ((execute_eq_builder {} d _ _).1 _ hselect).1 kselect
  · exact ((execute_eq_builder {} d _ _).1 _ hdelete).2.1 kdelete
  · exact ((execute_eq_builder {} d _ _).1 _ hcall).2.2 kcall _ rfl
  · exact ((execute_eq_builder {} d _ _).2 _ hopen).1

end Gateway

end SqlGateway
