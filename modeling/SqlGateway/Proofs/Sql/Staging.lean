import SqlGateway.Proofs.Sql.Binding

/-!
# Resolving in stages

A resolved text has the placeholders that were not bound, and no others: what is written for one
never runs together with what stands beside it. So a text can be resolved in stages, one list of
bindings after the other. If the lists have no name in common their order makes no difference, and
each stage finds the values that it would find alone.
-/

namespace SqlGateway.Sql

variable {α : Type} {first second : Bindings α}

/-- The word of a placeholder. -/
def Piece.word? : Piece → Option (List Char)
  | .plain _ => none
  | .placeholder word => some word

/-- The piece is a placeholder that is bound. -/
def isBound (bindings : Bindings α) : Piece → Bool
  | .plain _ => false
  | .placeholder word => (boundTo bindings word).isSome

/-- The values that a piece takes, each with the placeholder that takes it. -/
def takenAt (bindings : Bindings α) (p : Piece) : List (Piece × α) :=
  (taken bindings p).map (p, ·)

/-- Two lists of bindings have no name in common. -/
def Apart (first second : Bindings α) : Prop :=
  ∀ a ∈ first, ∀ b ∈ second, canonicalName a.1 ≠ canonicalName b.1

/-! ## The second stage -/

theorem boundTo_append (first second : Bindings α) (word : List Char) :
    boundTo (first ++ second) word = (boundTo first word).or (boundTo second word) :=
  firstBound_append first second _

/-- What is read off the placeholders of a resolved text is read off those that are not bound. -/
theorem filterMap_rewritten {β : Type} {bindings : Bindings α} {f : Piece → Option β}
    {unbound : β → Bool} (hplain : ∀ c, f (.plain c) = none)
    (hword : ∀ word b, f (.placeholder word) = some b →
      unbound b = (boundTo bindings word).isNone) (ps : List Piece) :
    (ps.flatMap (rewritten bindings)).filterMap f = (ps.filterMap f).filter unbound := by
  induction ps with
  | nil => rfl
  | cons p ps ih =>
      rw [List.flatMap_cons, List.filterMap_append, ih]
      cases p with
      | plain c => simp [rewritten, hplain]
      | placeholder word =>
          cases hf : f (.placeholder word) with
          | none => cases hbound : boundTo bindings word <;> simp [rewritten, hbound, hf, hplain]
          | some b =>
              have hb := hword word b hf
              cases hbound : boundTo bindings word <;>
                simp_all [rewritten, List.filterMap_map]

theorem flatMap_plain_written (s : List Char) :
    (s.map Piece.plain).flatMap (written second) = s := by
  induction s with
  | nil => rfl
  | cons c s ih => simp [written, ih]

theorem flatMap_plain_taken (s : List Char) :
    (s.map Piece.plain).flatMap (taken second) = [] := by
  simp [List.flatMap_map, taken]

theorem flatMap_rewritten_written (p : Piece) :
    (rewritten first p).flatMap (written second) = written (first ++ second) p := by
  cases p with
  | plain c => rfl
  | placeholder word =>
      cases hbound : boundTo first word with
      | some binding =>
          simp [rewritten, written, boundTo_append, hbound, flatMap_plain_written]
      | none => simp [rewritten, written, boundTo_append, hbound]

theorem flatMap_rewritten_taken (p : Piece) : (rewritten first p).flatMap (taken second) =
    if isBound first p then [] else taken second p := by
  cases p with
  | plain c => rfl
  | placeholder word =>
      cases hbound : boundTo first word with
      | some binding => simp [rewritten, isBound, hbound, flatMap_plain_taken]
      | none => simp [rewritten, isBound, hbound]

variable [BEq α]

theorem pieces_of_resolve {sql : String} {r : Resolved α} (h : resolve sql first = .ok r) :
    pieces r.sql.toList = (pieces sql.toList).flatMap (rewritten first) := by
  obtain ⟨haccepted, hsql, -⟩ := resolve_eq_ok_iff_accepted.mp h
  rw [hsql, ((splits_pieces sql.toList).rewritten haccepted.filled).eq_pieces]

/-- The second stage writes what both lists together would, and takes the values of what the first
stage has left. -/
theorem resolve_resolved (hsecond : Accepted second) {sql : String} {r : Resolved α}
    (h : resolve sql first = .ok r) : resolve r.sql second =
      .ok ⟨.ofList ((pieces sql.toList).flatMap (written (first ++ second))),
        (pieces sql.toList).flatMap fun p => if isBound first p then [] else taken second p⟩ := by
  refine resolve_eq_ok_iff_accepted.mpr ⟨hsecond, ?_, ?_⟩
  · rw [pieces_of_resolve h, List.flatMap_assoc]
    simp [flatMap_rewritten_written]
  · rw [pieces_of_resolve h, List.flatMap_assoc]
    simp only [flatMap_rewritten_taken]

/-! ## The same bindings again -/

/-- Of the placeholders of a text, its resolved text has those that are not bound, and no others.
There is nothing left in it for the same bindings. -/
theorem resolve_captures_nothing {sql : String} {bindings : Bindings α} {r : Resolved α}
    (h : resolve sql bindings = .ok r) :
    (∀ ps qs, Splits sql.toList ps → Splits r.sql.toList qs → qs.filterMap Piece.word? =
      (ps.filterMap Piece.word?).filter fun word => (boundTo bindings word).isNone) ∧
    namedPlaceholders r.sql =
      (namedPlaceholders sql).filter (fun name => (firstBound bindings name).isNone) ∧
    resolve r.sql bindings = .ok ⟨r.sql, []⟩ := by
  refine ⟨fun ps qs hps hqs => ?_, ?_, ?_⟩
  · rw [hps.eq_pieces, hqs.eq_pieces, pieces_of_resolve h]
    refine filterMap_rewritten (fun c => rfl) ?_ _
    rintro word _ ⟨⟩
    rfl
  · unfold namedPlaceholders
    rw [pieces_of_resolve h]
    refine filterMap_rewritten (fun c => rfl) ?_ _
    intro word name hname
    cases word with
    | nil => cases hname
    | cons c word =>
        cases hname
        rfl
  · obtain ⟨haccepted, hsql, -⟩ := resolve_eq_ok_iff_accepted.mp h
    have hwritten : written (bindings ++ bindings) = written bindings :=
      written_congr fun word => by rw [boundTo_append, Option.or_self]
    have htaken (p : Piece) : (if isBound bindings p then [] else taken bindings p) = [] := by
      cases p with
      | plain c => rfl
      | placeholder word => cases hbound : boundTo bindings word <;> simp [isBound, taken, hbound]
    rw [resolve_resolved haccepted h, hwritten, ← hsql, String.ofList_toList]
    simp [htaken]

/-- A bare colon and a name that starts as another does, between placeholders that are bound. -/
theorem resolve_captures_nothing_adjacent :
    let bindings : Bindings Nat := [("a", .many [1, 2]), ("b", .one 3)]
    resolve "::a:ab:b?:" bindings = .ok ⟨":?, ?:ab??:", [1, 2, 3]⟩ ∧
      namedPlaceholders ":?, ?:ab??:" = [":ab"] ∧
      resolve ":?, ?:ab??:" bindings = .ok ⟨":?, ?:ab??:", []⟩ := by
  intro bindings
  have ha : Text.isWord 'a' = true := by decide
  have hb : Text.isWord 'b' = true := by decide
  have hcolon : Text.isWord ':' = false := by decide
  have hmark : Text.isWord '?' = false := by decide
  have hpieces : pieces "::a:ab:b?:".toList = [.placeholder [], .placeholder ['a'],
      .placeholder ['a', 'b'], .placeholder ['b'], .plain '?', .placeholder []] := by
    simp [pieces, ha, hb, hcolon, hmark]
  have h : resolve "::a:ab:b?:" bindings = .ok ⟨":?, ?:ab??:", [1, 2, 3]⟩ := by
    rw [resolve_eq_ok_iff, hpieces]
    exact ⟨⟨_, rfl⟩, by decide, by decide⟩
  obtain ⟨-, hnames, hagain⟩ := resolve_captures_nothing h
  refine ⟨h, hnames.trans ?_, hagain⟩
  simp only [namedPlaceholders, hpieces]
  decide

/-! ## Two lists without a common name -/

omit [BEq α] in
theorem Apart.symm (h : Apart first second) : Apart second first :=
  fun a ha b hb => (h b hb a ha).symm

omit [BEq α] in
theorem Apart.boundTo_eq_none (h : Apart first second) {word : List Char} {binding : Binding α}
    (hbound : boundTo first word = some binding) : boundTo second word = none := by
  obtain ⟨entry, hentry, hname, -⟩ := exists_of_firstBound hbound
  exact firstBound_eq_none_iff.mpr fun other hother hother' =>
    h entry hentry other hother (hname.trans hother'.symm)

theorem Apart.accepted_append (h : Apart first second) (hfirst : Accepted first)
    (hsecond : Accepted second) : Accepted (first ++ second) := by
  induction second using List.reverseRecOn with
  | nil => rwa [List.append_nil]
  | append_singleton second entry ih =>
      obtain ⟨hsecond, hentry⟩ := accepted_concat.mp hsecond
      have hapart : Apart first second := fun a ha b hb => h a ha b (List.mem_append_left _ hb)
      have hunbound : firstBound first (canonicalName entry.1) = none :=
        firstBound_eq_none_iff.mpr fun a ha => h a ha entry (by simp)
      rw [← List.append_assoc, accepted_concat]
      refine ⟨ih hapart hsecond, fun reason hrejected => hentry reason ?_⟩
      cases hrejected with
      | empty hempty => exact .empty hempty
      | ambiguous hvalues hfirst hdiffers =>
          rw [firstBound_append, hunbound, Option.none_or] at hfirst
          exact .ambiguous hvalues hfirst hdiffers

omit [BEq α] in
theorem Apart.written_append (h : Apart first second) :
    written (second ++ first) = written (first ++ second) := by
  refine written_congr fun word => ?_
  rw [boundTo_append, boundTo_append]
  cases hfirst : boundTo first word with
  | none => simp
  | some binding => simp [h.boundTo_eq_none hfirst]

omit [BEq α] in
/-- A list takes the same values from what the other has left as from the whole text. -/
theorem Apart.taken_eq (h : Apart first second) (p : Piece) :
    (if isBound first p then [] else taken second p) = taken second p := by
  cases p with
  | plain c => rfl
  | placeholder word =>
      cases hfirst : boundTo first word with
      | none => simp [isBound, hfirst]
      | some binding => simp [isBound, hfirst, taken, h.boundTo_eq_none hfirst]

omit [BEq α] in
theorem Apart.filter_takenAt (h : Apart first second) (p : Piece) :
    ((takenAt (first ++ second) p).filter (isBound first ·.1)).map (·.2) = taken first p ∧
      ((takenAt (first ++ second) p).filter (isBound second ·.1)).map (·.2) = taken second p := by
  cases p with
  | plain c => exact ⟨rfl, rfl⟩
  | placeholder word =>
      cases hfirst : boundTo first word with
      | none =>
          cases hsecond : boundTo second word <;>
            simp [takenAt, taken, isBound, boundTo_append, hfirst, hsecond, Function.comp_def,
              List.filter_map]
      | some binding =>
          simp [takenAt, taken, isBound, boundTo_append, hfirst, h.boundTo_eq_none hfirst,
            Function.comp_def, List.filter_map]

/-- What a text is resolved to in two stages, in either order, and at once. -/
structure Staged (sql : String) (first second : Bindings α) (one two both : Resolved α) :
    Prop where
  ofFirst : resolve sql first = .ok one
  ofSecond : resolve sql second = .ok two
  atOnce : resolve sql (first ++ second) = .ok both
  firstThenSecond : resolve one.sql second = .ok ⟨both.sql, two.values⟩
  secondThenFirst : resolve two.sql first = .ok ⟨both.sql, one.values⟩
  values : both.values = ((pieces sql.toList).flatMap (takenAt (first ++ second))).map (·.2)
  firstValues : one.values = (((pieces sql.toList).flatMap (takenAt (first ++ second))).filter
    (isBound first ·.1)).map (·.2)
  secondValues : two.values = (((pieces sql.toList).flatMap (takenAt (first ++ second))).filter
    (isBound second ·.1)).map (·.2)

/-- Two lists of bindings without a common name can be used one after the other, in either order, or
at once. -/
theorem resolve_in_stages (hfirst : Accepted first) (hsecond : Accepted second)
    (hapart : Apart first second) (sql : String) :
    ∃ one two both, Staged sql first second one two both := by
  obtain ⟨one, hone⟩ := (exists_resolve_iff sql).mpr hfirst
  obtain ⟨two, htwo⟩ := (exists_resolve_iff sql).mpr hsecond
  obtain ⟨both, hboth⟩ := (exists_resolve_iff sql).mpr (hapart.accepted_append hfirst hsecond)
  obtain ⟨-, -, honeValues⟩ := resolve_eq_ok_iff_accepted.mp hone
  obtain ⟨-, -, htwoValues⟩ := resolve_eq_ok_iff_accepted.mp htwo
  obtain ⟨-, hsql, hvalues⟩ := resolve_eq_ok_iff_accepted.mp hboth
  refine ⟨one, two, both, {
    ofFirst := hone
    ofSecond := htwo
    atOnce := hboth
    firstThenSecond := ?_
    secondThenFirst := ?_
    values := ?_
    firstValues := ?_
    secondValues := ?_ }⟩
  · rw [resolve_resolved hsecond hone, ← hsql, String.ofList_toList, htwoValues]
    simp only [hapart.taken_eq]
  · rw [resolve_resolved hfirst htwo, hapart.written_append, ← hsql, String.ofList_toList,
      honeValues]
    simp only [hapart.symm.taken_eq]
  · simp [hvalues, takenAt, List.map_flatMap, Function.comp_def]
  · simp only [honeValues, List.filter_flatMap, List.map_flatMap, (hapart.filter_takenAt _).1]
  · simp only [htwoValues, List.filter_flatMap, List.map_flatMap, (hapart.filter_takenAt _).2]

/-- A name of the first list before and after one of the second, and one that neither has. -/
theorem resolve_in_stages_interleaved :
    let first : Bindings Nat := [("a", .many [1, 2])]
    let second : Bindings Nat := [(" :b", .one 3), ("b", .one 3)]
    Accepted first ∧ Accepted second ∧ Apart first second ∧
      ∃ one two, Staged ":a:b:a:c" first second one two ⟨"?, ???, ?:c", [1, 2, 3, 1, 2]⟩ := by
  intro first second
  have hfirst : Accepted first := accepted_iff.mpr ⟨_, rfl⟩
  have hsecond : Accepted second := accepted_iff.mpr ⟨_, rfl⟩
  have hapart : Apart first second := by
    simp only [Apart, first, second]
    decide
  obtain ⟨one, two, both, h⟩ := resolve_in_stages hfirst hsecond hapart ":a:b:a:c"
  have ha : Text.isWord 'a' = true := by decide
  have hb : Text.isWord 'b' = true := by decide
  have hc : Text.isWord 'c' = true := by decide
  have hcolon : Text.isWord ':' = false := by decide
  have hpieces : pieces ":a:b:a:c".toList = [.placeholder ['a'], .placeholder ['b'],
      .placeholder ['a'], .placeholder ['c']] := by
    simp [pieces, ha, hb, hc, hcolon]
  have hboth : resolve ":a:b:a:c" (first ++ second) = .ok ⟨"?, ???, ?:c", [1, 2, 3, 1, 2]⟩ := by
    rw [resolve_eq_ok_iff, hpieces]
    exact ⟨⟨_, rfl⟩, by decide, by decide⟩
  cases h.atOnce.symm.trans hboth
  exact ⟨hfirst, hsecond, hapart, one, two, h⟩

end SqlGateway.Sql
