import SqlGateway.Gateway.Run
import SqlGateway.Proofs.Sql.Normal
import SqlGateway.Proofs.Sql.Placeholder

/-!
# Named and positional parameters

If every name in a text is bound, the text that the names are resolved to is in normal form and has
no names left. A gateway takes that text with the values that were found for the same query.
-/

namespace SqlGateway

open Sql Text

namespace Sql

variable {α : Type} {bindings : Bindings α}

/-! ## Normal form of a resolved text -/

theorem fits_mark_left (c : Char) : Fits '?' c := by
  simp [Fits, Undelimited, Undashed, show isBlank '?' = false by decide]

theorem fits_mark_right (c : Char) : Fits c '?' := by
  simp [Fits, Undelimited, Undashed, show isBlank '?' = false by decide]

theorem isChain_marks_append {n : Nat} (hn : 0 < n) {s : List Char} (h : s.IsChain Fits) :
    (marks n ++ s).IsChain Fits := by
  induction n using questionMarks.induct with
  | case1 => cases hn
  | case2 => exact List.isChain_cons.mpr ⟨fun c _ => fits_mark_left c, h⟩
  | case3 n hn' ih =>
      obtain ⟨m, rfl⟩ := Nat.exists_eq_succ_of_ne_zero hn'
      obtain ⟨rest, hrest⟩ := marks_of_pos m.succ_pos
      have ih := ih m.succ_pos
      have hcomma : Fits ',' ' ' := fits_space_right.mpr (by decide)
      rw [hrest] at ih
      rw [marks_add_two, hrest]
      exact .cons_cons (fits_mark_left _) (.cons_cons hcomma (.cons_cons (fits_mark_right _) ih))

/-- Question marks fit in anywhere, and keep apart what they stand between. -/
theorem isChain_written (hfilled : Filled bindings) {p : Piece} {x z : List Char}
    (h : (x ++ (p.text ++ z)).IsChain Fits) : (x ++ (written bindings p ++ z)).IsChain Fits := by
  cases p with
  | plain c => exact h
  | placeholder word =>
      cases hbound : boundTo bindings word with
      | none =>
          rw [written_of_unbound hbound]
          exact h
      | some binding =>
          have hpos := hfilled _ _ hbound
          obtain ⟨rest, hrest⟩ := marks_of_pos hpos
          obtain ⟨hx, hz, -⟩ := List.isChain_append.mp h
          have hjoin : ∀ a ∈ x.getLast?, ∀ b ∈ (marks binding.values.length ++ z).head?,
              Fits a b := by
            intro a _ b hb
            rw [hrest] at hb
            simp only [List.cons_append, List.head?_cons, Option.mem_some_iff] at hb
            exact hb ▸ fits_mark_right a
          rw [written_of_bound hbound]
          exact List.isChain_append.mpr
            ⟨hx, isChain_marks_append hpos hz.right_of_append, hjoin⟩

theorem isChain_flatMap_written (hfilled : Filled bindings) {ps : List Piece} {x z : List Char}
    (h : (x ++ (ps.flatMap Piece.text ++ z)).IsChain Fits) :
    (x ++ (ps.flatMap (written bindings) ++ z)).IsChain Fits := by
  induction ps generalizing x with
  | nil => exact h
  | cons p ps ih =>
      rw [List.flatMap_cons, List.append_assoc] at h ⊢
      -- the pieces after it are replaced first, with its own text before them
      apply isChain_written hfilled
      rw [← List.append_assoc] at h ⊢
      exact ih h

theorem normal_resolve [BEq α] {sql : String} {r : Resolved α} (hsql : Normal sql.toList)
    (h : resolve sql bindings = .ok r) : Normal r.sql.toList := by
  obtain ⟨⟨known, hknown⟩, hout, -⟩ := resolve_eq_ok_iff.mp h
  have hchain := normal_iff.mp hsql
  rw [← flatMap_text_pieces sql.toList] at hchain
  rw [hout, normal_iff]
  exact isChain_flatMap_written (x := [' ']) (filled_of_canonicalBindings hknown) hchain

/-! ## Names of a resolved text -/

/-- The names in a resolved text are those of the text it comes from that are not bound. -/
theorem mem_namedPlaceholders_resolve [BEq α] {sql : String} {r : Resolved α}
    (h : resolve sql bindings = .ok r) {name : String} (hname : name ∈ namedPlaceholders r.sql) :
    name ∈ namedPlaceholders sql ∧ firstBound bindings name = none := by
  obtain ⟨⟨known, hknown⟩, hout, -⟩ := resolve_eq_ok_iff.mp h
  obtain ⟨c, word, hp, rfl⟩ := mem_namedPlaceholders.mp hname
  have hsplits := (splits_pieces sql.toList).rewritten (filled_of_canonicalBindings hknown)
  rw [hout, ← hsplits.eq_pieces, List.mem_flatMap] at hp
  obtain ⟨p, hp, hmem⟩ := hp
  obtain ⟨rfl, hunbound⟩ := placeholder_mem_rewritten hmem
  exact ⟨mem_namedPlaceholders.mpr ⟨c, word, hp, rfl⟩, hunbound⟩

theorem checkPositional_of_unnamed {sql : String} (h : ∀ name, name ∉ namedPlaceholders sql)
    (count : Nat) : checkPositional sql count = .ok () := by
  simp [checkPositional, hasNamedPlaceholders, List.eq_nil_iff_forall_not_mem.mpr h]

end Sql

namespace Gateway

/-- A gateway does the same with one text and its parameters as with the other. -/
structure Agree (sql : String) (params : Params) (sql' : String) (params' : Params) : Prop where
  select : ∀ g : Gateway, g.select sql params = g.select sql' params'
  update : ∀ g : Gateway, g.update sql params = g.update sql' params'
  execute : ∀ (g : Gateway) {σ τ : Type} (d : Driver σ),
    (g.execute d sql params : Act σ Error (Outcome τ)) = g.execute d sql' params'

theorem Agree.of_build {sql sql' : String} {params params' : Params}
    (h : build sql params = build sql' params') : Agree sql params sql' params' where
  select g := by simp only [Gateway.select, h]
  update g := by simp only [Gateway.update, h]
  execute g := by simp only [Gateway.execute, h, implies_true]

theorem build_named {raw clean : String} (h : normalize raw = .ok clean)
    (bindings : Bindings Value) : build raw (.named bindings) = resolve clean bindings := by
  rw [build, h]
  rfl

theorem build_positional {raw clean : String} {values : List Value} (h : normalize raw = .ok clean)
    (hcheck : checkPositional clean values.length = .ok ()) :
    build raw (.positional values) = .ok ⟨clean, values⟩ := by
  simp only [build, h, bind, Except.bind, hcheck]
  rfl

/-- What names are resolved to can be given back as it is, with its values by position. -/
theorem build_resolved {raw clean : String} {bindings : Bindings Value} {q : Resolved Value}
    (hclean : normalize raw = .ok clean) (hbuild : build raw (.named bindings) = .ok q)
    (hbound : ∀ name ∈ namedPlaceholders clean,
      ∃ entry ∈ bindings, canonicalName entry.1 = name) :
    normalize q.sql = .ok q.sql ∧ checkPositional q.sql q.values.length = .ok () ∧
      build q.sql (.positional q.values) = .ok q ∧
      Agree q.sql (.positional q.values) raw (.named bindings) := by
  have hresolve : resolve clean bindings = .ok q := by rw [← build_named hclean, hbuild]
  have hnormal : Normal clean.toList := by
    obtain ⟨-, -, hcleaned, hne⟩ := normalForm_eq_ok_iff.mp (normalize_eq_ok_iff.mp hclean)
    exact hcleaned ▸ normal_cleaned (hcleaned ▸ hne)
  have hfixed : normalize q.sql = .ok q.sql :=
    normalize_eq_ok_iff.mpr (normalForm_of_normal (normal_resolve hnormal hresolve))
  have hunnamed : ∀ name, name ∉ namedPlaceholders q.sql := by
    intro name hname
    obtain ⟨hmem, hunbound⟩ := mem_namedPlaceholders_resolve hresolve hname
    obtain ⟨entry, hentry, heq⟩ := hbound name hmem
    exact firstBound_eq_none_iff.mp hunbound entry hentry heq
  have hcheck := checkPositional_of_unnamed hunnamed q.values.length
  have hagain : build q.sql (.positional q.values) = .ok q := build_positional hfixed hcheck
  exact ⟨hfixed, hcheck, hagain, .of_build (hagain.trans hbuild.symm)⟩

/-- A name bound to two values, a bare colon, and a comment that ends the text. -/
theorem build_resolved_two_values :
    build "a  :i : --x" (.named [(" i", .many [.int 1, .null])]) =
        .ok ⟨"a ?, ? :", [.int 1, .null]⟩ ∧
      build "a ?, ? :" (.positional [.int 1, .null]) = .ok ⟨"a ?, ? :", [.int 1, .null]⟩ := by
  have hclean : normalize "a  :i : --x" = .ok "a :i :" := rfl
  have hletter : isWord 'i' = true := by decide
  have hspace : isWord ' ' = false := by decide
  have hpieces : pieces "a :i :".toList =
      [.plain 'a', .plain ' ', .placeholder ['i'], .plain ' ', .placeholder []] := by
    simp [pieces, hletter, hspace]
  have hbuild : build "a  :i : --x" (.named [(" i", .many [.int 1, .null])]) =
      .ok ⟨"a ?, ? :", [.int 1, .null]⟩ := by
    rw [build_named hclean, resolve_eq_ok_iff, hpieces]
    exact ⟨⟨_, rfl⟩, by decide, by decide⟩
  have hbound : ∀ name ∈ namedPlaceholders "a :i :",
      ∃ entry ∈ [(" i", Binding.many [Value.int 1, .null])], canonicalName entry.1 = name := by
    simp only [namedPlaceholders, hpieces]
    decide
  exact ⟨hbuild, (build_resolved hclean hbuild hbound).2.2.1⟩

end Gateway

end SqlGateway
