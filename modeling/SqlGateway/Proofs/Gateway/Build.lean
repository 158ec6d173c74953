import SqlGateway.Proofs.Sql.Agreement
import SqlGateway.Proofs.Sql.Resolution

/-!
# What a gateway builds

Whatever is built has a text in normal form of the kind that was asked for. What is refused is
refused as malformed or as a misuse.
-/

namespace SqlGateway

open Sql

/-! ## Steps and rows of a build -/

section

variable {ε α β : Type} {x : Except ε α} {f : α → Except ε β}

theorem bind_eq_ok_iff {b : β} : x >>= f = .ok b ↔ ∃ a, x = .ok a ∧ f a = .ok b := by
  cases x with
  | error e => simp [bind, Except.bind]
  | ok a => simp [bind, Except.bind]

theorem bind_eq_error_iff {e : ε} :
    x >>= f = .error e ↔ x = .error e ∨ ∃ a, x = .ok a ∧ f a = .error e := by
  cases x with
  | error e => simp [bind, Except.bind]
  | ok a => simp [bind, Except.bind]

theorem exists_of_forall₂_left {R : α → β → Prop} {as : List α} {bs : List β}
    (h : List.Forall₂ R as bs) {a : α} (ha : a ∈ as) : ∃ b ∈ bs, R a b := by
  induction h with
  | nil => cases ha
  | cons hr h ih =>
      rcases List.mem_cons.mp ha with rfl | ha
      · exact ⟨_, List.mem_cons_self, hr⟩
      · obtain ⟨b, hb, hab⟩ := ih ha
        exact ⟨b, List.mem_cons_of_mem _ hb, hab⟩

end

/-- There is no error but a misuse. -/
def MisusesOnly {α : Type} (x : Except Error α) : Prop :=
  ∀ e, x = .error e → ∃ reason, e = .misuse reason

namespace MisusesOnly

variable {α β : Type} {x : Except Error α} {f : α → Except Error β}

theorem ok (a : α) : MisusesOnly (.ok a) :=
  nofun

theorem error (reason : Misuse) : MisusesOnly (.error (.misuse reason) : Except Error α) :=
  fun _ h => ⟨reason, (Except.error.inj h).symm⟩

theorem bind (hx : MisusesOnly x) (hf : ∀ a, MisusesOnly (f a)) : MisusesOnly (x >>= f) := by
  intro e h
  rcases bind_eq_error_iff.mp h with h | ⟨a, -, h⟩
  · exact hx e h
  · exact hf a e h

/-- What comes after a step that succeeds. -/
theorem after {a : α} (hx : x = .ok a) (hf : MisusesOnly (f a)) : MisusesOnly (x >>= f) := by
  rw [hx]
  exact hf

end MisusesOnly

namespace Sql

/-- A normalized text stays normalized when its placeholders are resolved. -/
theorem normalize_resolve {α : Type} [BEq α] {raw clean : String} {bindings : Bindings α}
    {q : Resolved α} (h : normalize raw = .ok clean) (hq : resolve clean bindings = .ok q) :
    normalize q.sql = .ok q.sql :=
  normalize_of_normal (normal_resolve (normal_of_normalize h) hq)

/-- A resolved text has the question marks of the text it comes from and one for each value. -/
theorem count_resolve {α : Type} [BEq α] {sql : String} {bindings : Bindings α} {q : Resolved α}
    (h : resolve sql bindings = .ok q) :
    q.sql.toList.count '?' = sql.toList.count '?' + q.values.length := by
  obtain ⟨-, hsql, hvalues⟩ := resolve_eq_ok_iff.mp h
  have hsplits := splits_pieces sql.toList
  rw [hsql, hvalues, count_flatMap_written fun word => hsplits.not_mem_word, hsplits.flatMap_text]

theorem resolve_misuses {α : Type} [BEq α] (sql : String) (bindings : Bindings α) :
    MisusesOnly (resolve sql bindings) := by
  unfold resolve
  split
  · exact .error _
  · exact .ok _

theorem checkPositional_misuses (sql : String) (count : Nat) :
    MisusesOnly (checkPositional sql count) := by
  unfold checkPositional
  split
  · exact .error _
  · exact .ok _

theorem resolveCall_misuses (sql : String) (params : List Parameter) :
    MisusesOnly (resolveCall sql params) := by
  refine .bind ?_ fun _ => ?_
  · unfold checkUniform
    split
    · exact .error _
    · exact .ok _
  · split
    · exact resolve_misuses _ _
    · exact .ok _

theorem checkPositional_eq_ok_iff {sql : String} {count : Nat} :
    checkPositional sql count = .ok () ↔ (0 < count → hasNamedPlaceholders sql = false) := by
  unfold checkPositional
  cases hasNamedPlaceholders sql <;> simp

/-- What a list of call parameters is resolved to, after the parameters are found to be of one
style. -/
theorem resolveCall_eq_ok {sql : String} {params : List Parameter} {q : Resolved Parameter}
    (h : resolveCall sql params = .ok q) :
    ((∀ p ∈ params, p.isNamed = false) ∧ q = ⟨sql, params⟩) ∨
      ((∀ p ∈ params, p.isNamed = true) ∧ params ≠ [] ∧
        resolve sql (params.map fun p => (p.name, .one p)) = .ok q) := by
  obtain ⟨_, huniform, h⟩ := bind_eq_ok_iff.mp h
  have hstyle : ¬ ((∃ p ∈ params, p.isNamed = true) ∧ ∃ p ∈ params, p.isNamed = false) := by
    unfold checkUniform at huniform
    split at huniform
    · cases huniform
    · rename_i hmixed
      simpa only [Bool.and_eq_true, List.any_eq_true, Bool.not_eq_true'] using hmixed
  cases params with
  | nil =>
      cases h
      exact .inl ⟨fun _ hp => absurd hp List.not_mem_nil, rfl⟩
  | cons p params =>
      cases hp : p.isNamed with
      | false =>
          simp only [List.head?_cons, Option.map_some, Option.getD_some, hp] at h
          cases h
          refine .inl ⟨fun q hq => ?_, rfl⟩
          exact Bool.eq_false_iff.mpr fun hnamed =>
            hstyle ⟨⟨q, hq, hnamed⟩, ⟨p, List.mem_cons_self, hp⟩⟩
      | true =>
          simp only [List.head?_cons, Option.map_some, Option.getD_some, hp] at h
          refine .inr ⟨fun q hq => ?_, List.cons_ne_nil p params, h⟩
          exact Bool.of_not_eq_false fun hnamed =>
            hstyle ⟨⟨p, List.mem_cons_self, hp⟩, ⟨q, hq, hnamed⟩⟩

end Sql

namespace Gateway

variable {g : Gateway} {raw clean : String}

/-! ## Queries and single updates -/

theorem build_eq (h : normalize raw = .ok clean) (params : Params) : build raw params =
    match params with
    | .none => .ok ⟨clean, []⟩
    | .positional values => do
      checkPositional clean values.length
      return ⟨clean, values⟩
    | .named bindings => resolve clean bindings := by
  unfold build
  rw [h]
  rfl

theorem normalize_build {params : Params} {q : Resolved Value} (h : build raw params = .ok q) :
    normalize q.sql = .ok q.sql := by
  obtain ⟨clean, hclean, -⟩ := bind_eq_ok_iff.mp h
  rw [build_eq hclean] at h
  have hfixed := normalize_of_normal (normal_of_normalize hclean)
  cases params with
  | none =>
      cases h
      exact hfixed
  | positional values =>
      obtain ⟨_, -, h⟩ := bind_eq_ok_iff.mp h
      cases h
      exact hfixed
  | named bindings => exact normalize_resolve hclean h

theorem build_misuses (h : normalize raw = .ok clean) (params : Params) :
    MisusesOnly (build raw params) := by
  rw [build_eq h]
  cases params with
  | none => exact .ok _
  | positional values => exact .bind (checkPositional_misuses _ _) fun _ => .ok _
  | named bindings => exact resolve_misuses _ _

theorem expectKind_misuses (sql : String) (kind : StatementKind) :
    MisusesOnly (expectKind sql kind) := by
  unfold expectKind
  split
  · exact .ok _
  · exact .error _

theorem select_misuses (h : normalize raw = .ok clean) (params : Params) :
    MisusesOnly (g.select raw params) :=
  .bind (build_misuses h params) fun _ => .bind (expectKind_misuses _ _) fun _ => .ok _

theorem update_misuses (h : normalize raw = .ok clean) (params : Params) :
    MisusesOnly (g.update raw params) :=
  .bind (build_misuses h params) fun _ => .bind (expectKind_misuses _ _) fun _ => .ok _

theorem expectKind_eq_ok_iff {sql : String} {kind : StatementKind} :
    expectKind sql kind = .ok () ↔ classify sql = kind := by
  unfold expectKind
  split <;> simp_all

theorem select_eq_ok {params : Params} {q : Select} (h : g.select raw params = .ok q) :
    build raw params = .ok q.query ∧ classify q.query.sql = .select := by
  obtain ⟨query, hquery, h⟩ := bind_eq_ok_iff.mp h
  obtain ⟨_, hkind, h⟩ := bind_eq_ok_iff.mp h
  cases h
  exact ⟨hquery, expectKind_eq_ok_iff.mp hkind⟩

theorem update_eq_ok {params : Params} {u : Update} (h : g.update raw params = .ok u) :
    ∃ values, build raw params = .ok ⟨u.sql, values⟩ ∧ u.rows = [values] ∧
      classify u.sql = .dml := by
  obtain ⟨query, hquery, h⟩ := bind_eq_ok_iff.mp h
  obtain ⟨_, hkind, h⟩ := bind_eq_ok_iff.mp h
  cases h
  exact ⟨query.values, hquery, rfl, expectKind_eq_ok_iff.mp hkind⟩

/-! ## Batches -/

theorem updateBatch_eq_ok {rows : List (List Value)} {u : Update}
    (h : g.updateBatch raw rows = .ok u) :
    normalize raw = .ok u.sql ∧ u.rows = rows ∧ classify u.sql = .dml ∧
      (∀ row ∈ rows, row.length = (rows.head?.map List.length).getD 0) ∧
      checkPositional u.sql ((rows.head?.map List.length).getD 0) = .ok () := by
  obtain ⟨clean, hclean, h⟩ := bind_eq_ok_iff.mp h
  dsimp only at h
  split at h
  · cases h
  · rename_i heven
    obtain ⟨_, hcheck, h⟩ := bind_eq_ok_iff.mp h
    obtain ⟨_, hkind, h⟩ := bind_eq_ok_iff.mp h
    cases h
    exact ⟨hclean, rfl, expectKind_eq_ok_iff.mp hkind, by simpa using heven, hcheck⟩

theorem updateBatch_misuses (h : normalize raw = .ok clean) (rows : List (List Value)) :
    MisusesOnly (g.updateBatch raw rows) := by
  refine .after h ?_
  dsimp only
  split
  · exact .error _
  · exact .bind (checkPositional_misuses _ _) fun _ => .bind (expectKind_misuses _ _) fun _ => .ok _

/-- Rows of bindings are accepted if they all resolve a text to one and the same. -/
theorem resolveRows_eq_ok {rows : List (Bindings Value)} {first sql : Option String}
    {values : List (List Value)} (h : resolveRows clean first rows = .ok (sql, values)) :
    (∀ text ∈ first, sql = some text) ∧
      List.Forall₂ (fun bindings row => ∃ text ∈ sql, resolve clean bindings = .ok ⟨text, row⟩)
        rows values := by
  induction rows generalizing first sql values with
  | nil =>
      cases h
      exact ⟨fun text htext => htext, .nil⟩
  | cons bindings rows ih =>
      obtain ⟨row, hrow, h⟩ := bind_eq_ok_iff.mp h
      cases first with
      | none =>
          obtain ⟨⟨sql', values'⟩, hrest, h⟩ := bind_eq_ok_iff.mp h
          cases h
          obtain ⟨hsql, hrows⟩ := ih hrest
          exact ⟨nofun, .cons ⟨row.sql, hsql _ rfl, hrow⟩ hrows⟩
      | some text =>
          dsimp only at h
          split at h
          · rename_i heq
            obtain ⟨⟨sql', values'⟩, hrest, h⟩ := bind_eq_ok_iff.mp h
            cases h
            obtain ⟨hsql, hrows⟩ := ih hrest
            exact ⟨hsql, .cons ⟨text, hsql _ rfl, heq ▸ hrow⟩ hrows⟩
          · cases h

theorem resolveRows_of_resolve {rows : List (Bindings Value)} {values : List (List Value)}
    {text : String}
    (h : List.Forall₂ (fun bindings row => resolve clean bindings = .ok ⟨text, row⟩) rows values) :
    resolveRows clean (some text) rows = .ok (some text, values) := by
  induction h with
  | nil => rfl
  | cons hrow h ih => simp [resolveRows, hrow, ih, bind, Except.bind, pure, Except.pure]

theorem resolveRows_misuses (first : Option String) (rows : List (Bindings Value)) :
    MisusesOnly (resolveRows clean first rows) := by
  induction rows generalizing first with
  | nil => exact .ok _
  | cons bindings rows ih =>
      refine .bind (resolve_misuses _ _) fun row => ?_
      cases first with
      | none => exact .bind (ih _) fun _ => .ok _
      | some text =>
          dsimp only
          split
          · exact .bind (ih _) fun _ => .ok _
          · exact .error _

theorem updateNamedBatch_eq_ok {rows : List (Bindings Value)} {u : Update}
    (h : g.updateNamedBatch raw rows = .ok u) :
    ∃ clean, normalize raw = .ok clean ∧ classify u.sql = .dml ∧ (rows = [] → u.sql = clean) ∧
      List.Forall₂ (fun bindings row => resolve clean bindings = .ok ⟨u.sql, row⟩) rows u.rows := by
  obtain ⟨clean, hclean, h⟩ := bind_eq_ok_iff.mp h
  obtain ⟨⟨sql, values⟩, hrows, h⟩ := bind_eq_ok_iff.mp h
  obtain ⟨_, hkind, h⟩ := bind_eq_ok_iff.mp h
  cases h
  obtain ⟨-, hresolved⟩ := resolveRows_eq_ok hrows
  refine ⟨clean, hclean, expectKind_eq_ok_iff.mp hkind, ?_, ?_⟩
  · rintro rfl
    cases hrows
    rfl
  · refine hresolved.imp ?_
    rintro bindings row ⟨text, rfl, hrow⟩
    exact hrow

theorem updateNamedBatch_of_resolve {rows : List (Bindings Value)} {values : List (List Value)}
    {text : String} (hclean : normalize raw = .ok clean) (hne : rows ≠ [])
    (h : List.Forall₂ (fun bindings row => resolve clean bindings = .ok ⟨text, row⟩) rows values)
    (hkind : classify text = .dml) :
    g.updateNamedBatch raw rows = .ok ⟨g.provider, text, values, g.options⟩ := by
  cases h with
  | nil => exact absurd rfl hne
  | cons hrow h =>
      simp [updateNamedBatch, hclean, resolveRows, hrow, resolveRows_of_resolve h,
        expectKind_eq_ok_iff.mpr hkind, bind, Except.bind, pure, Except.pure]

theorem updateNamedBatch_eq_ok_iff {rows : List (Bindings Value)} {u : Update}
    (hclean : normalize raw = .ok clean) (hne : rows ≠ []) :
    g.updateNamedBatch raw rows = .ok u ↔ classify u.sql = .dml ∧
      List.Forall₂ (fun bindings row => resolve clean bindings = .ok ⟨u.sql, row⟩) rows u.rows ∧
      u = ⟨g.provider, u.sql, u.rows, g.options⟩ := by
  constructor
  · intro h
    obtain ⟨clean', hclean', hkind, -, hrows⟩ := updateNamedBatch_eq_ok h
    obtain rfl := Except.ok.inj (hclean.symm.trans hclean')
    rw [updateNamedBatch_of_resolve hclean hne hrows hkind] at h
    exact ⟨hkind, hrows, (Except.ok.inj h).symm⟩
  · rintro ⟨hkind, hrows, hu⟩
    rw [updateNamedBatch_of_resolve hclean hne hrows hkind, ← hu]

theorem updateNamedBatch_misuses (h : normalize raw = .ok clean) (rows : List (Bindings Value)) :
    MisusesOnly (g.updateNamedBatch raw rows) :=
  .after h (.bind (resolveRows_misuses _ _) fun _ => .bind (expectKind_misuses _ _) fun _ => .ok _)

/-! ## Procedure calls -/

theorem call_eq_ok {τ : Type} {params : List Parameter} {c : ProcedureCall τ}
    (h : g.call raw params = .ok c) :
    ∃ clean, normalize raw = .ok clean ∧ isProcedureCall c.sql = true ∧ c.handler = none ∧
      (((∀ p ∈ params, p.isNamed = false) ∧ checkPositional clean params.length = .ok () ∧
          c.sql = clean ∧ c.params = params) ∨
        ((∀ p ∈ params, p.isNamed = true) ∧ params ≠ [] ∧
          resolve clean (params.map fun p => (p.name, .one p)) = .ok ⟨c.sql, c.params⟩)) := by
  obtain ⟨clean, hclean, h⟩ := bind_eq_ok_iff.mp h
  have hresolved : ∃ q, resolveCall clean params = .ok q ∧
      (params.all (!·.isNamed) = true → checkPositional clean params.length = .ok ()) ∧
      (if isProcedureCall q.sql then
          .ok { provider := g.provider, sql := q.sql, params := q.values, options := g.options }
        else .error (.misuse (.notCall q.sql))) = (.ok c : Except Error (ProcedureCall τ)) := by
    split at h
    · obtain ⟨_, hcheck, h⟩ := bind_eq_ok_iff.mp h
      obtain ⟨q, hq, h⟩ := bind_eq_ok_iff.mp h
      exact ⟨q, hq, fun _ => hcheck, h⟩
    · rename_i hnamed
      obtain ⟨q, hq, h⟩ := bind_eq_ok_iff.mp h
      exact ⟨q, hq, fun hall => absurd hall hnamed, h⟩
  obtain ⟨q, hq, hcheck, h⟩ := hresolved
  split at h
  · rename_i hcall
    cases h
    refine ⟨clean, hclean, hcall, rfl, ?_⟩
    rcases resolveCall_eq_ok hq with ⟨hstyle, rfl⟩ | hnamed
    · exact .inl ⟨hstyle, hcheck (by simpa using hstyle), rfl, rfl⟩
    · exact .inr hnamed
  · cases h

theorem call_misuses {τ : Type} (h : normalize raw = .ok clean) (params : List Parameter) :
    MisusesOnly (g.call raw params : Except Error (ProcedureCall τ)) := by
  refine .after h ?_
  have resolved : MisusesOnly (do
      let query ← resolveCall clean params
      if isProcedureCall query.sql then
        return { provider := g.provider, sql := query.sql, params := query.values,
                 options := g.options }
      else throw (.misuse (.notCall query.sql)) : Except Error (ProcedureCall τ)) := by
    refine .bind (resolveCall_misuses _ _) fun query => ?_
    split
    · exact .ok _
    · exact .error _
  dsimp only
  split
  · exact .bind (checkPositional_misuses _ _) fun _ => resolved
  · exact resolved

end Gateway

end SqlGateway
