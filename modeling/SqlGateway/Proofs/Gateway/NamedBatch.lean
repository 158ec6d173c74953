import SqlGateway.Proofs.Gateway.Build
import SqlGateway.Proofs.Sql.Series

/-!
# Columns of a named batch

The rows of a named batch are sent with one text. So they bind the same placeholders and have the
same number of values, and values of the same position come from placeholders of one series.
-/

namespace SqlGateway

open Sql

namespace Sql

variable {α : Type} {first second : Bindings α} {sql : String}

/-- Two rows of bindings give each position to the same placeholder, or to placeholders of one
series. -/
structure SameColumns (first second : Bindings α) (ps : List Piece) : Prop where
  bound : SameBound first second ps
  width : (ps.flatMap (taken second)).length = (ps.flatMap (taken first)).length
  joined : ∀ {j} (o : Origin first ps j) (o' : Origin second ps j),
    Joined first ps o.place o'.place

theorem sameColumns_of_resolve [BEq α] {q q' : Resolved α} (hq : resolve sql first = .ok q)
    (hq' : resolve sql second = .ok q') (h : q'.sql = q.sql) :
    SameColumns first second (pieces sql.toList) := by
  obtain ⟨⟨_, hfirst⟩, htext, hvalues⟩ := resolve_eq_ok_iff.mp hq
  obtain ⟨⟨_, hsecond⟩, htext', hvalues'⟩ := resolve_eq_ok_iff.mp hq'
  have hf := filled_of_canonicalBindings hfirst
  have hs := filled_of_canonicalBindings hsecond
  have hwritten : (pieces sql.toList).flatMap (written first) =
      (pieces sql.toList).flatMap (written second) := by rw [← htext, ← htext', h]
  have hbound := sameBound_of_written_eq hf hs (splits_pieces sql.toList) hwritten
  refine ⟨hbound, ?_, fun o o' => o.joined hf hs hbound hwritten o'⟩
  have hcount := count_resolve hq
  have hcount' := count_resolve hq'
  rw [h] at hcount'
  rw [← hvalues, ← hvalues']
  omega

/-- Each value of a resolved text comes from one of its placeholders. -/
theorem exists_origin_of_resolve [BEq α] {q : Resolved α} (hq : resolve sql first = .ok q) {j : Nat}
    (hj : j < q.values.length) :
    ∃ o : Origin first (pieces sql.toList) j, o.binding.values.get ⟨o.nth, o.lt⟩ = q.values[j] := by
  obtain ⟨-, -, hvalues⟩ := resolve_eq_ok_iff.mp hq
  obtain ⟨o⟩ := origin_of_lt (hvalues ▸ hj)
  refine ⟨o, Option.some.inj ?_⟩
  rw [← o.value_eq, ← hvalues, List.getElem?_eq_getElem hj]

end Sql

namespace Gateway

/-- Rows that are accepted share their columns with the first; rows that do not are refused. -/
theorem named_batch_columns (g : Gateway) {sql clean : String} (hclean : normalize sql = .ok clean)
    (rows : List (Bindings Value)) :
    (∀ u, g.updateNamedBatch sql rows = .ok u →
      List.Forall₂ (fun bindings values => resolve clean bindings = .ok ⟨u.sql, values⟩ ∧
        ∀ j (hj : j < values.length), ∃ o : Origin bindings (pieces clean.toList) j,
          o.binding.values.get ⟨o.nth, o.lt⟩ = values[j]) rows u.rows ∧
      ∀ first ∈ rows.head?, ∀ bindings ∈ rows,
        SameColumns first bindings (pieces clean.toList)) ∧
    ((∃ first ∈ rows.head?, ∃ bindings ∈ rows,
        ¬ SameColumns first bindings (pieces clean.toList)) →
      ∃ reason, g.updateNamedBatch sql rows = .error (.misuse reason)) := by
  have accepted (u : Update) (h : g.updateNamedBatch sql rows = .ok u) :
      List.Forall₂ (fun bindings values => resolve clean bindings = .ok ⟨u.sql, values⟩)
        rows u.rows := by
    obtain ⟨clean', hclean', -, -, hrows⟩ := updateNamedBatch_eq_ok h
    rw [hclean] at hclean'
    cases hclean'
    exact hrows
  have same (u : Update) (h : g.updateNamedBatch sql rows = .ok u) :
      ∀ first ∈ rows.head?, ∀ bindings ∈ rows,
        SameColumns first bindings (pieces clean.toList) := by
    intro first hfirst bindings hmem
    have hfirst := List.mem_of_mem_head? hfirst
    obtain ⟨values, -, hvalues⟩ := exists_of_forall₂_left (accepted u h) hfirst
    obtain ⟨values', -, hvalues'⟩ := exists_of_forall₂_left (accepted u h) hmem
    exact sameColumns_of_resolve hvalues hvalues' rfl
  constructor
  · refine fun u h => ⟨(accepted u h).imp ?_, same u h⟩
    exact fun bindings values hrow => ⟨hrow, fun j hj => exists_origin_of_resolve hrow hj⟩
  · rintro ⟨first, hfirst, bindings, hmem, hdiffer⟩
    cases h : g.updateNamedBatch sql rows with
    | ok u => exact absurd (same u h first hfirst bindings hmem) hdiffer
    | error e =>
        obtain ⟨reason, rfl⟩ := updateNamedBatch_misuses hclean rows e h
        exact ⟨reason, rfl⟩

/-- Two rows that resolve a text to the same, though a placeholder takes more values from one. -/
theorem shifted_rows_resolve :
    pieces "delete :a, :b".toList = [.plain 'd', .plain 'e', .plain 'l', .plain 'e', .plain 't',
        .plain 'e', .plain ' ', .placeholder ['a'], .plain ',', .plain ' ', .placeholder ['b']] ∧
      resolve "delete :a, :b" [("a", .many [Value.int 1, .int 2]), ("b", .one (.int 3))] =
        .ok ⟨"delete ?, ?, ?", [.int 1, .int 2, .int 3]⟩ ∧
      resolve "delete :a, :b" [("a", .one (Value.int 1)), ("b", .many [.int 2, .int 3])] =
        .ok ⟨"delete ?, ?, ?", [.int 1, .int 2, .int 3]⟩ := by
  have ha : Text.isWord 'a' = true := by decide
  have hb : Text.isWord 'b' = true := by decide
  have hcomma : Text.isWord ',' = false := by decide
  have hpieces : pieces "delete :a, :b".toList = [.plain 'd', .plain 'e', .plain 'l', .plain 'e',
      .plain 't', .plain 'e', .plain ' ', .placeholder ['a'], .plain ',', .plain ' ',
      .placeholder ['b']] := by
    simp [pieces, ha, hb, hcomma]
  refine ⟨hpieces, ?_, ?_⟩
  · rw [resolve_eq_ok_iff, hpieces]
    exact ⟨⟨_, rfl⟩, by decide, by decide⟩
  · rw [resolve_eq_ok_iff, hpieces]
    exact ⟨⟨_, rfl⟩, by decide, by decide⟩

theorem shifted_rows_accepted :
    ({} : Gateway).updateNamedBatch "delete :a, :b"
        [[("a", .many [.int 1, .int 2]), ("b", .one (.int 3))],
          [("a", .one (.int 1)), ("b", .many [.int 2, .int 3])]] =
      .ok ⟨.shared, "delete ?, ?, ?",
        [[.int 1, .int 2, .int 3], [.int 1, .int 2, .int 3]], ({} : Gateway).options⟩ := by
  obtain ⟨-, hfirst, hsecond⟩ := shifted_rows_resolve
  have hclean : normalize "delete :a, :b" = .ok "delete :a, :b" := rfl
  exact updateNamedBatch_of_resolve hclean (List.cons_ne_nil _ _)
    (.cons hfirst (.cons hsecond .nil)) (by decide)

/-- Two rows that are accepted though their series are not equally long. -/
theorem named_batch_columns_shifted :
    normalize "delete :a, :b" = .ok "delete :a, :b" ∧
      SameColumns [("a", .many [Value.int 1, .int 2]), ("b", .one (.int 3))]
        [("a", .one (Value.int 1)), ("b", .many [.int 2, .int 3])]
        (pieces "delete :a, :b".toList) := by
  have hclean : normalize "delete :a, :b" = .ok "delete :a, :b" := rfl
  have hbatch := (named_batch_columns {} hclean _).1 _ shifted_rows_accepted
  exact ⟨hclean, hbatch.2 _ rfl _ (List.mem_cons_of_mem _ List.mem_cons_self)⟩

/-- The first row gives its second value to the first placeholder, the second row to the second. -/
theorem named_batch_value_moved :
    (∃ u, ({} : Gateway).updateNamedBatch "delete :a, :b"
      [[("a", .many [.int 1, .int 2]), ("b", .one (.int 3))],
        [("a", .one (.int 1)), ("b", .many [.int 2, .int 3])]] = .ok u) ∧
    ∃ (o : Origin [("a", .many [Value.int 1, .int 2]), ("b", .one (.int 3))]
        (pieces "delete :a, :b".toList) 1)
      (o' : Origin [("a", .one (Value.int 1)), ("b", .many [.int 2, .int 3])]
        (pieces "delete :a, :b".toList) 1),
      o.word = ['a'] ∧ o'.word = ['b'] ∧ o.place ≠ o'.place := by
  refine ⟨⟨_, shifted_rows_accepted⟩, ?_⟩
  rw [shifted_rows_resolve.1]
  exact ⟨{
      before := [.plain 'd', .plain 'e', .plain 'l', .plain 'e', .plain 't', .plain 'e', .plain ' ']
      word := ['a']
      after := [.plain ',', .plain ' ', .placeholder ['b']]
      binding := .many [.int 1, .int 2]
      nth := 1
      split := rfl
      bound := rfl
      lt := by decide
      index := rfl }, {
      before := [.plain 'd', .plain 'e', .plain 'l', .plain 'e', .plain 't', .plain 'e', .plain ' ',
        .placeholder ['a'], .plain ',', .plain ' ']
      word := ['b']
      after := []
      binding := .many [.int 2, .int 3]
      nth := 0
      split := rfl
      bound := rfl
      lt := by decide
      index := rfl }, rfl, rfl, by decide⟩

end Gateway

end SqlGateway
