import SqlGateway.Proofs.Conduct.Traced
import SqlGateway.Proofs.Sql.Resolution

/-!
# Styles of parameters

What a caller gives for a text is given by position or by name. Values by position go to a text
without named placeholders as they are. Values by name are passed in the order of the placeholders
they are for, and a question mark that the text has of its own is not counted.
-/

namespace SqlGateway

open Sql

variable {σ α : Type}

/-! ## What a caller gives -/

/-- What is given for one row of a text. -/
inductive Supply where
  | positional (values : List (Option Value))
  | bindings (bindings : Bindings Value)
  | parameters (params : List Parameter)

def Params.supply : Params → Supply
  | .none => .positional []
  | .positional values => .positional (values.map some)
  | .named bindings => .bindings bindings

def UpdateValues.supplies : UpdateValues → List Supply
  | .single params => [params.supply]
  | .rows lists => lists.map fun row => .positional (row.map some)
  | .namedRows lists => lists.map .bindings

/-- The parameters of a call are taken for named if one of them is. -/
def Supply.ofParameters (params : List Parameter) : Supply :=
  if params.any (·.isNamed) then .parameters params else .positional (params.map Parameter.value?)

namespace Operation

def supplies : Operation α → List Supply
  | .select _ params _ _ | .execute _ params _ => [params.supply]
  | .update _ values _ _ => values.supplies
  | .call _ params _ _ _ => [.ofParameters params]
  | _ => []

def text? : Operation α → Option String
  | .select sql _ _ _ | .execute sql _ _ | .update sql _ _ _ | .call sql _ _ _ _ => some sql
  | _ => none

/-- The operation is about a text, which this is when it is clean. -/
def HasText (operation : Operation α) (clean : String) : Prop :=
  ∃ raw, operation.text? = some raw ∧ normalize raw = .ok clean

end Operation

namespace Supply

/-- Values by position for a text with named placeholders, or parameters that are not all named. -/
def Mixes (clean : String) : Supply → Prop
  | .positional values => values ≠ [] ∧ hasNamedPlaceholders clean = true
  | .bindings _ => False
  | .parameters params => ∃ p ∈ params, p.isNamed = false

/-- The row of values that the text is sent with. -/
def Fills (clean sql : String) : Supply → List (Option Value) → Prop
  | .positional values, row =>
    row = values ∧ sql = clean ∧ (values ≠ [] → hasNamedPlaceholders clean = false)
  | .bindings given, row =>
    ∃ values, resolve clean given = .ok ⟨sql, values⟩ ∧ row = values.map some
  | .parameters params, row =>
    (∀ p ∈ params, p.isNamed = true) ∧ ∃ resolved,
      resolve clean (params.map fun p => (p.name, .one p)) = .ok ⟨sql, resolved⟩ ∧
        row = resolved.map Parameter.value?

theorem Fills.not_mixes {clean sql : String} {supply : Supply} {row : List (Option Value)}
    (h : supply.Fills clean sql row) : ¬ supply.Mixes clean := by
  cases supply with
  | positional values =>
      rintro ⟨hne, hnamed⟩
      rw [h.2.2 hne] at hnamed
      cases hnamed
  | bindings bindings => exact id
  | parameters params =>
      rintro ⟨p, hp, hnamed⟩
      rw [h.1 p hp] at hnamed
      cases hnamed

end Supply

/-! ## Where values are put -/

/-- The value of a position comes from a placeholder of the text. The question mark that is written
for it is further on by those that the text has of its own before the placeholder. -/
def Sql.PutAt {β : Type} (bindings : Bindings β) (clean sql : String) (position : Nat) (b : β) :
    Prop :=
  ∃ k, ∃ o : Origin bindings (pieces clean.toList) k, position = k + 1 ∧
    o.binding.values.get ⟨o.nth, o.lt⟩ = b ∧ sql.toList[o.mark]? = some '?' ∧
    (sql.toList.take o.mark).count '?' + 1 = position + o.own ∧ o.own ≤ clean.toList.count '?'

theorem Sql.Origin.own_le {β : Type} {bindings : Bindings β} {sql : List Char} {ps : List Piece}
    (hsplits : Splits sql ps) {k : Nat} (o : Origin bindings ps k) : o.own ≤ sql.count '?' := by
  have hsql : o.before.flatMap Piece.text ++
      (Piece.placeholder o.word :: o.after).flatMap Piece.text =
      sql := by
    rw [← List.flatMap_append, ← o.split, hsplits.flatMap_text]
  rw [← hsql, List.count_append]
  exact Nat.le_add_right _ _

theorem Sql.putAt_of_resolve {β : Type} [BEq β] {bindings : Bindings β} {clean : String}
    {query : Resolved β} (h : resolve clean bindings = .ok query) {k : Nat} {b : β}
    (hk : query.values[k]? = some b) : PutAt bindings clean query.sql (k + 1) b := by
  obtain ⟨-, hsql, hvalues⟩ := resolve_eq_ok_iff.mp h
  have hsplits := splits_pieces clean.toList
  obtain ⟨hlt, -⟩ := List.getElem?_eq_some_iff.mp hk
  obtain ⟨o⟩ := origin_of_lt (hvalues ▸ hlt)
  have hvalue := o.value_eq
  rw [← hvalues, hk] at hvalue
  obtain ⟨hmark, hcount⟩ := o.mark_eq fun word => hsplits.not_mem_word
  rw [← hsql] at hmark hcount
  refine ⟨k, o, rfl, (Option.some.inj hvalue).symm, hmark, by omega, o.own_le hsplits⟩

namespace Supply

/-- The value of a position is the one that was given for it, in the style that was chosen. -/
def Puts (clean sql : String) (position : Nat) (value : Value) : Supply → Prop
  | .positional values =>
    sql = clean ∧ hasNamedPlaceholders clean = false ∧
      ∃ k, position = k + 1 ∧ values[k]? = some (some value)
  | .bindings given => PutAt given clean sql position value
  | .parameters params =>
    ∃ p, p.value? = some value ∧ PutAt (params.map fun p => (p.name, .one p)) clean sql position p

theorem Fills.puts {clean sql : String} {supply : Supply} {row : List (Option Value)}
    (h : supply.Fills clean sql row) {k : Nat} {value : Value}
    (hk : row[k]? = some (some value)) : supply.Puts clean sql (k + 1) value := by
  cases supply with
  | positional values =>
      obtain ⟨rfl, hsql, hnamed⟩ := h
      refine ⟨hsql, hnamed ?_, k, rfl, hk⟩
      rintro rfl
      cases hk
  | bindings given =>
      obtain ⟨values, hresolve, rfl⟩ := h
      exact putAt_of_resolve hresolve (by simpa using hk)
  | parameters params =>
      obtain ⟨-, resolved, hresolve, rfl⟩ := h
      rw [List.getElem?_map] at hk
      obtain ⟨p, hp, hvalue⟩ := Option.map_eq_some_iff.mp hk
      exact ⟨p, hvalue, putAt_of_resolve hresolve hp⟩

end Supply

/-! ## Requests -/

variable {g : Gateway} {raw clean : String}

theorem fills_of_build {params : Params} {query : Resolved Value}
    (hclean : normalize raw = .ok clean)
    (h : Gateway.build raw params = .ok query) :
    params.supply.Fills clean query.sql (query.values.map some) := by
  rw [Gateway.build_eq hclean] at h
  cases params with
  | none =>
      cases h
      exact ⟨rfl, rfl, fun hne => absurd rfl hne⟩
  | positional values =>
      obtain ⟨_, hcheck, h⟩ := bind_eq_ok_iff.mp h
      cases h
      refine ⟨rfl, rfl, fun hne => checkPositional_eq_ok_iff.mp hcheck ?_⟩
      exact List.length_pos_iff.mpr (by simpa using hne)
  | named bindings => exact ⟨query.values, h, rfl⟩

theorem fills_of_buildUpdate {values : UpdateValues} {u : Update}
    (hclean : normalize raw = .ok clean) (h : Client.buildUpdate g raw values = .ok u) :
    List.Forall₂ (Supply.Fills clean u.sql) values.supplies (u.rows.map (·.map some)) := by
  cases values with
  | single params =>
      obtain ⟨row, hbuild, hrows, -⟩ := Gateway.update_eq_ok h
      rw [hrows]
      exact .cons (fills_of_build hclean hbuild) .nil
  | rows rows =>
      obtain ⟨hsql, hrows, -, hwidth, hcheck⟩ := Gateway.updateBatch_eq_ok h
      obtain rfl : clean = u.sql := Except.ok.inj (hclean.symm.trans hsql)
      rw [hrows]
      refine List.forall₂_map_left_iff.mpr (List.forall₂_map_right_iff.mpr
        (List.forall₂_same.mpr fun row hrow => ⟨rfl, rfl, fun hne => ?_⟩))
      refine checkPositional_eq_ok_iff.mp hcheck ?_
      rw [← hwidth row hrow]
      exact List.length_pos_iff.mpr (by simpa using hne)
  | namedRows rows =>
      obtain ⟨clean', hclean', -, -, hrows⟩ := Gateway.updateNamedBatch_eq_ok h
      obtain rfl : clean = clean' := Except.ok.inj (hclean.symm.trans hclean')
      refine List.forall₂_map_left_iff.mpr (List.forall₂_map_right_iff.mpr (hrows.imp ?_))
      exact fun bindings row hrow => ⟨row, hrow, rfl⟩

theorem fills_of_call {params : List Parameter} {c : ProcedureCall α}
    (hclean : normalize raw = .ok clean) (h : g.call raw params = .ok c) :
    (Supply.ofParameters params).Fills clean c.sql (c.params.map Parameter.value?) := by
  obtain ⟨clean', hclean', -, -, hstyle⟩ := Gateway.call_eq_ok h
  obtain rfl : clean = clean' := Except.ok.inj (hclean.symm.trans hclean')
  unfold Supply.ofParameters
  rcases hstyle with ⟨hnone, hcheck, hsql, hparams⟩ | ⟨hall, hne, hresolved⟩
  · have hany : params.any (·.isNamed) = false := by simpa using hnone
    rw [hany, hparams]
    refine ⟨rfl, hsql, fun hne => checkPositional_eq_ok_iff.mp hcheck ?_⟩
    exact List.length_pos_iff.mpr (by simpa using hne)
  · have hany : params.any (·.isNamed) = true := by
      obtain ⟨p, hp⟩ := List.exists_mem_of_ne_nil params hne
      exact List.any_eq_true.mpr ⟨p, hp, hall p hp⟩
    rw [if_pos hany]
    exact ⟨hall, c.params, hresolved, rfl⟩

/-- The rows of a request are what was given, each row in one style. -/
theorem fills_of_request {operation : Operation α} (htext : operation.HasText clean)
    {q : Option Request} (h : operation.request g = .ok q) :
    ∃ r, q = some r ∧ List.Forall₂ (Supply.Fills clean r.sql) operation.supplies r.rows := by
  obtain ⟨raw, hraw, hclean⟩ := htext
  cases operation with
  | select sql params setup use =>
      obtain rfl := Option.some.inj hraw
      obtain ⟨s, hs, rfl⟩ := map_eq_ok h
      obtain ⟨hbuild, -⟩ := Gateway.select_eq_ok hs
      exact ⟨_, rfl, .cons (fills_of_build hclean hbuild) .nil⟩
  | update sql values setup use =>
      obtain rfl := Option.some.inj hraw
      obtain ⟨u, hu, rfl⟩ := map_eq_ok h
      exact ⟨_, rfl, fills_of_buildUpdate hclean hu⟩
  | call sql params setup handler use =>
      obtain rfl := Option.some.inj hraw
      obtain ⟨c, hc, rfl⟩ := map_eq_ok h
      exact ⟨_, rfl, .cons (fills_of_call hclean hc) .nil⟩
  | execute sql params wanted =>
      obtain rfl := Option.some.inj hraw
      obtain ⟨query, hquery, rfl⟩ := map_eq_ok h
      exact ⟨_, rfl, .cons (fills_of_build hclean hquery) .nil⟩
  | _ => cases hraw

theorem misuses_of_request {operation : Operation α} (htext : operation.HasText clean) :
    MisusesOnly (operation.request g) := by
  obtain ⟨raw, hraw, hclean⟩ := htext
  intro e he
  cases operation with
  | select sql params setup use =>
      obtain rfl := Option.some.inj hraw
      exact Gateway.select_misuses hclean params e (map_eq_error he)
  | update sql values setup use =>
      obtain rfl := Option.some.inj hraw
      cases values with
      | single params => exact Gateway.update_misuses hclean params e (map_eq_error he)
      | rows rows => exact Gateway.updateBatch_misuses hclean rows e (map_eq_error he)
      | namedRows rows => exact Gateway.updateNamedBatch_misuses hclean rows e (map_eq_error he)
  | call sql params setup handler use =>
      obtain rfl := Option.some.inj hraw
      exact Gateway.call_misuses hclean params e (map_eq_error he)
  | execute sql params wanted =>
      obtain rfl := Option.some.inj hraw
      exact Gateway.build_misuses hclean params e (map_eq_error he)
  | _ => cases hraw

theorem hasText_of_request {operation : Operation α} {r : Request}
    (h : operation.request g = .ok (some r)) : ∃ clean, operation.HasText clean := by
  cases operation with
  | select sql params setup use =>
      obtain ⟨s, hs, -⟩ := map_eq_ok h
      obtain ⟨hbuild, -⟩ := Gateway.select_eq_ok hs
      obtain ⟨clean, hclean, -⟩ := bind_eq_ok_iff.mp hbuild
      exact ⟨clean, sql, rfl, hclean⟩
  | update sql values setup use =>
      obtain ⟨u, hu, -⟩ := map_eq_ok h
      cases values with
      | single params =>
          obtain ⟨row, hbuild, -⟩ := Gateway.update_eq_ok hu
          obtain ⟨clean, hclean, -⟩ := bind_eq_ok_iff.mp hbuild
          exact ⟨clean, sql, rfl, hclean⟩
      | rows rows => exact ⟨u.sql, sql, rfl, (Gateway.updateBatch_eq_ok hu).1⟩
      | namedRows rows =>
          obtain ⟨clean, hclean, -⟩ := Gateway.updateNamedBatch_eq_ok hu
          exact ⟨clean, sql, rfl, hclean⟩
  | call sql params setup handler use =>
      obtain ⟨c, hc, -⟩ := map_eq_ok h
      obtain ⟨clean, hclean, -⟩ := Gateway.call_eq_ok hc
      exact ⟨clean, sql, rfl, hclean⟩
  | execute sql params wanted =>
      obtain ⟨query, hquery, -⟩ := map_eq_ok h
      obtain ⟨clean, hclean, -⟩ := bind_eq_ok_iff.mp hquery
      exact ⟨clean, sql, rfl, hclean⟩
  | _ => cases h

/-- Styles that are mixed are refused. -/
theorem request_of_mixes {operation : Operation α} (htext : operation.HasText clean)
    (hmixes : ∃ supply ∈ operation.supplies, supply.Mixes clean) :
    ∃ reason, operation.request g = .error (.misuse reason) := by
  cases h : operation.request g with
  | error e =>
      obtain ⟨reason, rfl⟩ := misuses_of_request htext e h
      exact ⟨reason, rfl⟩
  | ok q =>
      obtain ⟨r, -, hrows⟩ := fills_of_request htext h
      obtain ⟨supply, hsupply, hmixes⟩ := hmixes
      obtain ⟨row, -, hfills⟩ := exists_of_forall₂_left hrows hsupply
      exact absurd hmixes hfills.not_mixes

/-! ## Operations -/

/-- Values by position for named placeholders, and parameters that are not all named, are refused
before anything has passed. What does pass is put where it was given for: by position as it is, by
name in the order of the placeholders. Where the text has no question mark of its own, that is the
question mark of the position. -/
theorem styles_apart (d : Driver σ) (client : Client (Traced σ) α) (operation : Operation α) :
    ∃ u, (client.step d.traced (.operation operation)).2.session.trace = client.session.trace ++ u ∧
      (∀ clean, operation.HasText clean → (∃ supply ∈ operation.supplies, supply.Mixes clean) →
        u = [] ∧ ∃ reason,
          (client.step d.traced (.operation operation)).1 = .error (.error (.misuse reason))) ∧
      ∀ i position value answer, .call (.bind i position value) answer ∈ u →
        ∃ clean sql, operation.HasText clean ∧
          (∀ i' text kind keys answer', .call (.prepare i' text kind keys) answer' ∈ u →
            text = sql) ∧
          ∃ supply ∈ operation.supplies, supply.Puts clean sql position value := by
  cases hq : operation.request client.gateway with
  | error e =>
      rw [operate_unserved hq]
      refine ⟨[], (List.append_nil _).symm, fun clean htext hmixes => ⟨rfl, ?_⟩,
        fun _ _ _ _ hx => absurd hx List.not_mem_nil⟩
      obtain ⟨reason, hreason⟩ := request_of_mixes (g := client.gateway) htext hmixes
      obtain rfl := Except.error.inj (hq.symm.trans hreason)
      exact ⟨reason, rfl⟩
  | ok q =>
      obtain ⟨u, hu, hserves, -⟩ := operate_served (d := d) hq
      refine ⟨u, hu, fun clean htext hmixes => ?_, fun i position value answer hbind => ?_⟩
      · obtain ⟨reason, hreason⟩ := request_of_mixes (g := client.gateway) htext hmixes
        cases hq.symm.trans hreason
      · obtain ⟨r, hr, row, hrow, k, hposition, hk⟩ := hserves _ hbind
        obtain rfl : q = some r := hr
        obtain ⟨clean, htext⟩ := hasText_of_request hq
        obtain ⟨r', hr', hfills⟩ := fills_of_request htext hq
        obtain rfl := Option.some.inj hr'
        refine ⟨clean, r.sql, htext, fun i' text kind keys answer' hprepare => ?_, ?_⟩
        · obtain ⟨r', hr', htext, -⟩ := hserves _ hprepare
          obtain rfl := Option.some.inj hr'
          exact htext
        · obtain ⟨supply, hsupply, hfilled⟩ := exists_of_forall₂_left hfills.flip hrow
          exact ⟨supply, hsupply, hposition ▸ Supply.Fills.puts hfilled hk⟩

/-- A text with a question mark of its own takes values by name all the same. The first value, which
is bound at the first position, was given for the second question mark. -/
theorem own_mark_passed_over :
    let given : Bindings Value := [("a", .one (.int 1))]
    ({} : Gateway).select "SELECT ? , :a" (.named given) =
        .ok ⟨.shared, ⟨"SELECT ? , ?", [.int 1]⟩, ({} : Gateway).options⟩ ∧
      '?' ∈ "SELECT ? , :a".toList ∧
      ∃ o : Origin given (pieces "SELECT ? , :a".toList) 0, o.word = ['a'] ∧
        "SELECT ? , ?".toList[o.mark]? = some '?' ∧
        ("SELECT ? , ?".toList.take o.mark).count '?' = 1 := by
  intro given
  have ha : Text.isWord 'a' = true := by decide
  have hpieces : pieces "SELECT ? , :a".toList = [.plain 'S', .plain 'E', .plain 'L', .plain 'E',
      .plain 'C', .plain 'T', .plain ' ', .plain '?', .plain ' ', .plain ',', .plain ' ',
      .placeholder ['a']] := by
    simp [pieces, ha]
  have hresolve : resolve "SELECT ? , :a" given = .ok ⟨"SELECT ? , ?", [.int 1]⟩ := by
    rw [resolve_eq_ok_iff, hpieces]
    exact ⟨⟨_, rfl⟩, by decide, by decide⟩
  have hclean : normalize "SELECT ? , :a" = .ok "SELECT ? , :a" := rfl
  have hbuild : Gateway.build "SELECT ? , :a" (.named given) = .ok ⟨"SELECT ? , ?", [.int 1]⟩ :=
    (Gateway.build_eq hclean _).trans hresolve
  have hkind : Gateway.expectKind "SELECT ? , ?" .select = .ok () :=
    Gateway.expectKind_eq_ok_iff.mpr (by decide)
  refine ⟨?_, by decide, ?_⟩
  · simp [Gateway.select, hbuild, hkind, bind, Except.bind, pure, Except.pure]
  · rw [hpieces]
    exact ⟨{
      before := [.plain 'S', .plain 'E', .plain 'L', .plain 'E', .plain 'C', .plain 'T', .plain ' ',
        .plain '?', .plain ' ', .plain ',', .plain ' ']
      word := ['a']
      after := []
      binding := .one (.int 1)
      nth := 0
      split := rfl
      bound := rfl
      lt := by decide
      index := rfl }, rfl, rfl, rfl⟩

end SqlGateway
