import SqlGateway.Proofs.Sql.Resolution
import SqlGateway.Proofs.Sql.Spelling
import SqlGateway.Sql.Rendering

/-!
# Rendered texts

A rendered text shows for its `k`-th question mark the `k`-th value, and everything else as it is.
The text and values that names are resolved to therefore show, for each name that is bound, what it
is bound to.
-/

namespace SqlGateway.Sql

variable {α : Type}

/-! ## Filling question marks -/

/-- What stands in a rendered text for a question mark: its value's text, or the mark itself. -/
def inPlace (fill : Option String) : List Char :=
  (fill.getD "?").toList

/-- A text with its `k`-th question mark replaced by the `k`-th fill, as long as there is one. -/
def filledIn (s : List Char) (fills : List (Option String)) : List Char :=
  s.zipIdx.flatMap fun (c, i) =>
    if c = '?' then inPlace fills[(s.take i).count '?']?.join else [c]

theorem fillMarks_mark (s : List Char) (fills : List (Option String)) :
    fillMarks ('?' :: s) fills = inPlace fills.head?.join ++ fillMarks s fills.tail := by
  rcases fills with _ | ⟨_ | text, fills⟩ <;> simp [fillMarks, inPlace]

theorem fillMarks_char {c : Char} (hc : c ≠ '?') (s : List Char) (fills : List (Option String)) :
    fillMarks (c :: s) fills = c :: fillMarks s fills := by
  rw [fillMarks]
  exact fun h => hc h

theorem fillMarks_of_unmarked {s : List Char} (hs : '?' ∉ s) (fills : List (Option String)) :
    fillMarks s fills = s := by
  induction s with
  | nil => rfl
  | cons c s ih =>
      obtain ⟨hc, hs⟩ := not_or.mp (mt List.mem_cons.mpr hs)
      rw [fillMarks_char (Ne.symm hc), ih hs]

/-- The second part of a text goes on with the fills that the first has left. -/
theorem fillMarks_append (s t : List Char) (fills : List (Option String)) :
    fillMarks (s ++ t) fills = fillMarks s fills ++ fillMarks t (fills.drop (s.count '?')) := by
  induction s generalizing fills with
  | nil => rfl
  | cons c s ih =>
      by_cases hc : c = '?'
      · subst hc
        rw [List.cons_append, fillMarks_mark, fillMarks_mark, ih, List.append_assoc,
          List.count_cons_self, List.drop_tail]
      · rw [List.cons_append, fillMarks_char hc, fillMarks_char hc, ih,
          List.count_cons_of_ne hc, List.cons_append]

theorem fillMarks_eq (s : List Char) (fills : List (Option String)) :
    fillMarks s fills = filledIn s fills := by
  induction s using List.reverseRecOn with
  | nil => rfl
  | append_singleton s c ih =>
      have hbefore : filledIn (s ++ [c]) fills =
          filledIn s fills ++ fillMarks [c] (fills.drop (s.count '?')) := by
        unfold filledIn
        rw [List.zipIdx_append, List.flatMap_append]
        congr 1
        · refine List.flatMap_congr fun ⟨d, i⟩ hd => ?_
          have hi := (List.mem_zipIdx hd).2.1
          dsimp only
          rw [List.take_append_of_le_length (by omega)]
        · by_cases hc : c = '?'
          · simp [hc, fillMarks_mark, fillMarks, List.head?_drop]
          · simp [hc, fillMarks_char hc, fillMarks]
      rw [fillMarks_append, ih, hbefore]

/-! ## Resolved texts -/

/-- What a resolved text shows for a piece once it is rendered. -/
def shown (view : α → Option String) (bindings : Bindings α) : Piece → List Char
  | .plain c => [c]
  | .placeholder word =>
    match boundTo bindings word with
    | some binding => [',', ' '].intercalate (binding.values.map fun a => inPlace (view a))
    | none => ':' :: word

variable {view : α → Option String} {bindings : Bindings α} {ps : List Piece}

theorem fillMarks_marks (fills rest : List (Option String)) :
    fillMarks (marks fills.length) (fills ++ rest) =
      [',', ' '].intercalate (fills.map inPlace) := by
  match fills with
  | [] => rfl
  | [fill] => simp [marks_one, fillMarks_mark, fillMarks]
  | fill :: next :: fills =>
      have ih := fillMarks_marks (next :: fills) rest
      rw [List.length_cons] at ih
      rw [List.length_cons, List.length_cons, marks_add_two, fillMarks_mark,
        fillMarks_char (by decide), fillMarks_char (by decide)]
      simpa using ih

theorem fillMarks_written {p : Piece} (hp : '?' ∉ p.text) (rest : List (Option String)) :
    fillMarks (written bindings p) ((taken bindings p).map view ++ rest) =
      shown view bindings p := by
  cases p with
  | plain c => exact fillMarks_of_unmarked hp _
  | placeholder word =>
      cases hbound : boundTo bindings word with
      | none =>
          rw [written_of_unbound hbound, shown, hbound]
          exact fillMarks_of_unmarked hp _
      | some binding =>
          have htaken : taken bindings (.placeholder word) = binding.values := by
            simp [taken, hbound]
          have hmarks := fillMarks_marks (binding.values.map view) rest
          rw [List.length_map, List.map_map] at hmarks
          rw [written_of_bound hbound, htaken, hmarks, shown, hbound]
          rfl

theorem fillMarks_flatMap_written (hps : ∀ p ∈ ps, '?' ∉ p.text) :
    fillMarks (ps.flatMap (written bindings)) ((ps.flatMap (taken bindings)).map view) =
      ps.flatMap (shown view bindings) := by
  induction ps with
  | nil => rfl
  | cons p ps ih =>
      obtain ⟨hp, hps⟩ := List.forall_mem_cons.mp hps
      have hcount : (written bindings p).count '?' = ((taken bindings p).map view).length := by
        rw [count_written, List.count_eq_zero.mpr hp, List.length_map, Nat.zero_add]
        rintro word rfl hword
        exact hp (List.mem_cons_of_mem _ hword)
      rw [List.flatMap_cons, List.flatMap_cons, List.flatMap_cons, List.map_append,
        fillMarks_append, fillMarks_written hp, hcount, List.drop_left, ih hps]

theorem fillMarks_resolved [BEq α] {sql : String} {r : Resolved α} (hsql : '?' ∉ sql.toList)
    (h : resolve sql bindings = .ok r) :
    fillMarks r.sql.toList (r.values.map view) =
      (pieces sql.toList).flatMap (shown view bindings) := by
  obtain ⟨-, hout, hvalues⟩ := resolve_eq_ok_iff.mp h
  rw [hout, hvalues]
  refine fillMarks_flatMap_written fun p hp hmark => hsql ?_
  rw [← flatMap_text_pieces sql.toList]
  exact List.mem_flatMap.mpr ⟨p, hp, hmark⟩

/-- A rendered text shows for each question mark its value, and is not looked into again. If the
text that names were resolved in has no question mark of its own, what is shown is that text with
each name that is bound replaced by all it is bound to; an output parameter of a call shows as a
question mark. -/
theorem rendered_as_executed :
    (∀ sql values, (render sql values).toList =
        filledIn sql.toList (values.map fun v => some v.display)) ∧
      (∀ sql (bindings : Bindings Value) r, '?' ∉ sql.toList → resolve sql bindings = .ok r →
        (render r.sql r.values).toList =
          (pieces sql.toList).flatMap (shown (fun v => some v.display) bindings)) ∧
      ∀ sql params r, '?' ∉ sql.toList → (∀ p ∈ params, p.isNamed = true) →
        resolveCall sql params = .ok r →
        (renderCall r.sql r.values).toList = (pieces sql.toList).flatMap
          (shown (fun p => p.value?.map Value.display) (callBindings params)) := by
  refine ⟨fun sql values => ?_, fun sql bindings r hsql h => ?_,
    fun sql params r hsql hnamed h => ?_⟩
  · rw [render, String.toList_ofList, fillMarks_eq]
  · rw [render, String.toList_ofList, fillMarks_resolved hsql h]
  · rw [resolveCall_named hnamed] at h
    rw [renderCall, String.toList_ofList, fillMarks_resolved hsql h]

/-- Values that show as question marks and names, a name bound to two values, one that is not bound,
and a parameter that only brings a value out. -/
theorem rendered_as_executed_marks :
    let bindings : Bindings Value := [("x", .many [.text "?:y", .null]), ("y", .one (.text "?"))]
    let params : List Parameter := [⟨"x", .inOut (.text "?:y") .varChar⟩, ⟨"y", .output .integer⟩]
    '?' ∉ ":x:y:z".toList ∧
      (render "?:z" [.text "?", .null]).toList = "?:z".toList ∧
      resolve ":x:y:z" bindings = .ok ⟨"?, ??:z", [.text "?:y", .null, .text "?"]⟩ ∧
      (render "?, ??:z" [.text "?:y", .null, .text "?"]).toList = "?:y, null?:z".toList ∧
      resolveCall ":x:y:z" params = .ok ⟨"??:z", params⟩ ∧
      (renderCall "??:z" params).toList = "?:y?:z".toList := by
  intro bindings params
  have hx : Text.isWord 'x' = true := by decide
  have hy : Text.isWord 'y' = true := by decide
  have hz : Text.isWord 'z' = true := by decide
  have hcolon : Text.isWord ':' = false := by decide
  have hpieces : pieces ":x:y:z".toList =
      [.placeholder ['x'], .placeholder ['y'], .placeholder ['z']] := by
    simp [pieces, hx, hy, hz, hcolon]
  have hmarks : '?' ∉ ":x:y:z".toList := by decide
  have hnamed : ∀ p ∈ params, p.isNamed = true := by decide
  have hresolve : resolve ":x:y:z" bindings = .ok ⟨"?, ??:z", [.text "?:y", .null, .text "?"]⟩ := by
    rw [resolve_eq_ok_iff, hpieces]
    exact ⟨⟨_, rfl⟩, by decide, by decide⟩
  have hcall : resolveCall ":x:y:z" params = .ok ⟨"??:z", params⟩ := by
    rw [resolveCall_named hnamed, resolve_eq_ok_iff, hpieces]
    exact ⟨⟨_, rfl⟩, by decide, by decide⟩
  obtain ⟨hfilled, hrender, hrenderCall⟩ := rendered_as_executed
  refine ⟨hmarks, ?_, hresolve, ?_, hcall, ?_⟩
  · exact (hfilled _ _).trans (by decide)
  · exact (hrender _ _ _ hmarks hresolve).trans (by rw [hpieces]; decide)
  · exact (hrenderCall _ _ _ hmarks hnamed hcall).trans (by rw [hpieces]; decide)

end SqlGateway.Sql
