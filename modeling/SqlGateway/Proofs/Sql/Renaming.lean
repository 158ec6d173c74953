import SqlGateway.Proofs.Gateway.Build
import SqlGateway.Proofs.Sql.CallForm
import SqlGateway.Proofs.Sql.Staging

/-!
# Renaming placeholders

The word of a placeholder is a name and nothing else. If the words of a text and of its bindings
are renamed alike, so that no two become one, the same values are found, and the resolved text is
renamed as well. If every placeholder is bound none is left to show the difference.
-/

namespace SqlGateway

open Sql Text

namespace Sql

def IsWord (word : List Char) : Prop :=
  ∀ c ∈ word, isWord c = true

/-- Every placeholder of the text is bound. -/
def AllBound {α : Type} (bindings : Bindings α) (sql : String) : Prop :=
  ∀ word, .placeholder word ∈ pieces sql.toList → ∃ binding, boundTo bindings word = some binding

/-- A renaming of words, the empty one among them. No two words become one. -/
structure Renaming where
  word : List Char → List Char
  isWord_word : ∀ w, IsWord w → IsWord (word w)
  injective : ∀ v w, IsWord v → IsWord w → word v = word w → v = w

namespace Renaming

variable (ρ : Renaming)

/-- Renames a name in canonical form. One that no placeholder can have stays as it is. -/
def name (name : String) : String :=
  match name.toList with
  | ':' :: word => if word.all isWord then .ofList (':' :: ρ.word word) else name
  | _ => name

def piece : Piece → Piece
  | .plain c => .plain c
  | .placeholder word => .placeholder (ρ.word word)

/-- Renames all placeholders of a text. -/
def text (sql : String) : String :=
  .ofList ((pieces sql.toList).flatMap fun p => (ρ.piece p).text)

/-- One entry is the other renamed, with its name in any spelling. -/
structure Entry {α : Type} (entry entry' : String × Binding α) : Prop where
  name : canonicalName entry'.1 = ρ.name (canonicalName entry.1)
  binding : entry'.2 = entry.2

/-- One list of bindings is the other renamed. -/
def Entries {α : Type} (bindings bindings' : Bindings α) : Prop :=
  List.Forall₂ ρ.Entry bindings bindings'

variable {ρ}

/-! ## Names -/

theorem name_of_isWord {word : List Char} (h : IsWord word) :
    ρ.name (.ofList (':' :: word)) = .ofList (':' :: ρ.word word) := by
  have hall : word.all isWord = true := List.all_eq_true.mpr h
  simp [name, hall]

theorem name_of_not_isWord {s : String} (h : ∀ word, IsWord word → s ≠ .ofList (':' :: word)) :
    ρ.name s = s := by
  unfold name
  split
  · rename_i word hs
    split
    · rename_i hall
      refine absurd ?_ (h word (List.all_eq_true.mp hall))
      rw [← hs, String.ofList_toList]
    · rfl
  · rfl

theorem name_injective {a b : String} (h : ρ.name a = ρ.name b) : a = b := by
  by_cases ha : ∃ v, IsWord v ∧ a = .ofList (':' :: v) <;>
    by_cases hb : ∃ w, IsWord w ∧ b = .ofList (':' :: w)
  · obtain ⟨v, hv, rfl⟩ := ha
    obtain ⟨w, hw, rfl⟩ := hb
    rw [name_of_isWord hv, name_of_isWord hw] at h
    have hword := ρ.injective v w hv hw (by simpa using congrArg String.toList h)
    rw [hword]
  · obtain ⟨v, hv, rfl⟩ := ha
    rw [name_of_isWord hv, name_of_not_isWord fun w hw heq => hb ⟨w, hw, heq⟩] at h
    exact absurd ⟨_, ρ.isWord_word v hv, h.symm⟩ hb
  · obtain ⟨w, hw, rfl⟩ := hb
    rw [name_of_isWord hw, name_of_not_isWord fun v hv heq => ha ⟨v, hv, heq⟩] at h
    exact absurd ⟨_, ρ.isWord_word w hw, h⟩ ha
  · rwa [name_of_not_isWord fun v hv heq => ha ⟨v, hv, heq⟩,
      name_of_not_isWord fun w hw heq => hb ⟨w, hw, heq⟩] at h

/-! ## Bindings -/

section

variable {α : Type} {bindings bindings' before before' : Bindings α}
  {entry entry' : String × Binding α}

theorem Entries.firstBound_name (h : ρ.Entries bindings bindings') (name : String) :
    firstBound bindings' (ρ.name name) = firstBound bindings name := by
  induction h with
  | nil => rfl
  | @cons entry entry' bindings bindings' hentry h ih =>
      rw [firstBound_cons, firstBound_cons, ih, hentry.name, hentry.binding]
      by_cases hname : canonicalName entry.1 = name
      · simp [hname]
      · simp [hname, mt name_injective hname]

theorem Entries.boundTo_word (h : ρ.Entries bindings bindings') {word : List Char}
    (hw : IsWord word) :
    boundTo bindings' (ρ.word word) = boundTo bindings word := by
  unfold boundTo
  rw [← name_of_isWord hw, h.firstBound_name]

variable [BEq α]

theorem Entries.rejected_iff (h : ρ.Entries before before') (hentry : ρ.Entry entry entry') :
    (∃ reason, Rejected before' entry' reason) ↔ ∃ reason, Rejected before entry reason := by
  rw [exists_rejected_iff, exists_rejected_iff, hentry.name, hentry.binding, h.firstBound_name]

theorem Entries.accepted_append_iff (h : ρ.Entries bindings bindings')
    (hbefore : ρ.Entries before before') (haccepted : Accepted before' ↔ Accepted before) :
    Accepted (before' ++ bindings') ↔ Accepted (before ++ bindings) := by
  induction h generalizing before before' with
  | nil => rwa [List.append_nil, List.append_nil]
  | @cons entry entry' bindings bindings' hentry h ih =>
      rw [List.append_cons before, List.append_cons before']
      refine ih (List.rel_append hbefore (.cons hentry .nil)) ?_
      rw [accepted_concat, accepted_concat, haccepted, ← not_exists, ← not_exists,
        hbefore.rejected_iff hentry]

theorem Entries.accepted_iff (h : ρ.Entries bindings bindings') :
    Accepted bindings' ↔ Accepted bindings :=
  h.accepted_append_iff .nil .rfl

end

/-! ## Texts -/

/-- A placeholder starts with a colon whatever its word. -/
theorem head?_flatMap_piece (ps : List Piece) :
    (ps.flatMap fun p => (ρ.piece p).text).head? = (ps.flatMap Piece.text).head? := by
  cases ps with
  | nil => rfl
  | cons p ps => cases p <;> rfl

theorem splits_piece {s : List Char} {ps : List Piece} (h : Splits s ps) :
    Splits (ps.flatMap fun p => (ρ.piece p).text) (ps.map ρ.piece) := by
  induction h with
  | nil => exact .nil
  | plain hc h ih => exact .plain hc ih
  | @placeholder word s ps hword hend h ih =>
      have hend : ∀ c ∈ (ps.flatMap fun p => (ρ.piece p).text).head?, Text.isWord c = false := by
        rwa [head?_flatMap_piece, h.flatMap_text]
      simpa [piece, Piece.text] using ih.placeholder (ρ.isWord_word word hword) hend

theorem toList_text (sql : String) :
    (ρ.text sql).toList = (pieces sql.toList).flatMap fun p => (ρ.piece p).text := by
  simp [text]

theorem pieces_text (sql : String) :
    pieces (ρ.text sql).toList = (pieces sql.toList).map ρ.piece := by
  rw [toList_text, ← (splits_piece (splits_pieces sql.toList)).eq_pieces]

/-- A text without placeholders has nothing to rename. -/
theorem text_of_plain {sql : String} (h : ∀ word, .placeholder word ∉ pieces sql.toList) :
    ρ.text sql = sql := by
  have hpieces : (pieces sql.toList).flatMap (fun p => (ρ.piece p).text) =
      (pieces sql.toList).flatMap Piece.text := by
    refine List.flatMap_congr fun p hp => ?_
    cases p with
    | plain c => rfl
    | placeholder word => exact absurd hp (h word)
  rw [text, hpieces, flatMap_text_pieces, String.ofList_toList]

/-! ## Normal form -/

theorem fits_of_isWord {c : Char} (h : c = ':' ∨ isWord c = true) (d : Char) :
    Fits c d ∧ Fits d c := by
  have hblank : isBlank c = false := by
    rcases h with rfl | h
    · decide
    · exact Bool.eq_false_iff.mpr fun hc => by simp [isWord_of_isBlank hc] at h
  have hne {e : Char} (he : e ≠ ':' ∧ isWord e = false) : c ≠ e := by
    rintro rfl
    simp [he] at h
  have hdash : c ≠ '-' := hne (by decide)
  have hslash : c ≠ '/' := hne (by decide)
  have hstar : c ≠ '*' := hne (by decide)
  simp [Fits, Undelimited, Undashed, hblank, hdash, hslash, hstar]

/-- The characters of a placeholder fit in anywhere. -/
theorem isChain_placeholder {word : List Char} (hw : IsWord word) {x y z : List Char}
    (h : (x ++ (y ++ z)).IsChain Fits) : (x ++ (':' :: word ++ z)).IsChain Fits := by
  have hfits : ∀ c ∈ ':' :: word, ∀ d, Fits c d ∧ Fits d c := by
    intro c hc
    rcases List.mem_cons.mp hc with rfl | hc
    · exact fits_of_isWord (.inl rfl)
    · exact fits_of_isWord (.inr (hw c hc))
  obtain ⟨hx, hyz, -⟩ := List.isChain_append.mp h
  refine List.isChain_append.mpr ⟨hx, List.isChain_append.mpr ⟨?_, hyz.right_of_append, ?_⟩, ?_⟩
  · exact List.Pairwise.isChain (List.pairwise_of_forall_mem_list fun c hc d _ => (hfits c hc d).1)
  · exact fun c hc d _ => (hfits c (List.mem_of_getLast? hc) d).1
  · rintro d - c ⟨⟩
    exact (hfits ':' List.mem_cons_self d).2

theorem isChain_piece {ps : List Piece} (hps : ∀ word, .placeholder word ∈ ps → IsWord word)
    {x z : List Char} (h : (x ++ (ps.flatMap Piece.text ++ z)).IsChain Fits) :
    (x ++ ((ps.flatMap fun p => (ρ.piece p).text) ++ z)).IsChain Fits := by
  induction ps generalizing x with
  | nil => exact h
  | cons p ps ih =>
      rw [List.flatMap_cons, List.append_assoc] at h ⊢
      rw [← List.append_assoc] at h
      -- the pieces after it are renamed first, with its own text before them
      have h := ih (fun word hw => hps word (List.mem_cons_of_mem p hw)) h
      rw [List.append_assoc] at h
      cases p with
      | plain c => exact h
      | placeholder word => exact isChain_placeholder (ρ.isWord_word word (hps word (by simp))) h

theorem normal_text {sql : String} (h : Normal sql.toList) : Normal (ρ.text sql).toList := by
  have hchain := normal_iff.mp h
  rw [← flatMap_text_pieces sql.toList] at hchain
  rw [toList_text, normal_iff]
  exact isChain_piece (x := [' ']) (fun word => (splits_pieces sql.toList).isWord) hchain

/-! ## Resolving a renamed text -/

section

variable {α : Type} {bindings bindings' : Bindings α}

theorem Entries.written_piece (h : ρ.Entries bindings bindings') {p : Piece}
    (hp : ∀ word, p = .placeholder word → IsWord word) :
    written bindings' (ρ.piece p) =
      (rewritten bindings p).flatMap fun q => (ρ.piece q).text := by
  cases p with
  | plain c => rfl
  | placeholder word =>
      have hbound := h.boundTo_word (hp word rfl)
      cases hword : boundTo bindings word with
      | none => simp [piece, written, rewritten, hbound, hword, Piece.text]
      | some binding =>
          simp [piece, written, rewritten, hbound, hword, Piece.text, List.flatMap_map]

theorem Entries.taken_piece (h : ρ.Entries bindings bindings') {p : Piece}
    (hp : ∀ word, p = .placeholder word → IsWord word) :
    taken bindings' (ρ.piece p) = taken bindings p := by
  cases p with
  | plain c => rfl
  | placeholder word => simp [piece, taken, h.boundTo_word (hp word rfl)]

variable [BEq α]

theorem Entries.resolve_text (h : ρ.Entries bindings bindings') {sql : String} {r : Resolved α}
    (hr : resolve sql bindings = .ok r) :
    resolve (ρ.text sql) bindings' = .ok ⟨ρ.text r.sql, r.values⟩ := by
  obtain ⟨haccepted, -, hvalues⟩ := resolve_eq_ok_iff_accepted.mp hr
  have hword : ∀ p ∈ pieces sql.toList, ∀ word, p = .placeholder word → IsWord word := by
    rintro p hp word rfl
    exact (splits_pieces sql.toList).isWord hp
  refine resolve_eq_ok_iff_accepted.mpr ⟨h.accepted_iff.mpr haccepted, ?_, ?_⟩
  · rw [toList_text, pieces_of_resolve hr, pieces_text, List.flatMap_map, List.flatMap_assoc]
    exact (List.flatMap_congr fun p hp => h.written_piece (hword p hp)).symm
  · rw [hvalues, pieces_text, List.flatMap_map]
    exact (List.flatMap_congr fun p hp => h.taken_piece (hword p hp)).symm

/-- If every placeholder is bound the renamed text is resolved to the same. -/
theorem Entries.resolve_text_eq (h : ρ.Entries bindings bindings') {sql : String} {r : Resolved α}
    (hr : resolve sql bindings = .ok r) (hbound : AllBound bindings sql) :
    resolve (ρ.text sql) bindings' = .ok r := by
  have hplain : ρ.text r.sql = r.sql := by
    refine text_of_plain fun word hword => ?_
    rw [pieces_of_resolve hr, List.mem_flatMap] at hword
    obtain ⟨p, hp, hmem⟩ := hword
    obtain ⟨rfl, hunbound⟩ := placeholder_mem_rewritten hmem
    obtain ⟨binding, hbinding⟩ := hbound word hp
    simp [hunbound] at hbinding
  rw [h.resolve_text hr, hplain]

theorem Entries.resolve_text_iff (h : ρ.Entries bindings bindings') {sql : String} {r : Resolved α}
    (hbound : AllBound bindings sql) :
    resolve (ρ.text sql) bindings' = .ok r ↔ resolve sql bindings = .ok r := by
  refine ⟨fun hr' => ?_, fun hr => h.resolve_text_eq hr hbound⟩
  have haccepted := h.accepted_iff.mp ((exists_resolve_iff _).mp ⟨r, hr'⟩)
  obtain ⟨other, hr⟩ := (exists_resolve_iff sql).mpr haccepted
  rw [hr, ← h.resolve_text_eq hr hbound, hr']

theorem forall₂_resolve_text_iff {rows rows' : List (Bindings α)} {values : List (List α)}
    {sql text : String} (h : List.Forall₂ ρ.Entries rows rows')
    (hbound : ∀ bindings ∈ rows, AllBound bindings sql) :
    List.Forall₂ (fun bindings row => resolve (ρ.text sql) bindings = .ok ⟨text, row⟩)
        rows' values ↔
      List.Forall₂ (fun bindings row => resolve sql bindings = .ok ⟨text, row⟩) rows values := by
  induction h generalizing values with
  | nil => simp
  | cons hentries h ih =>
      obtain ⟨hfirst, hrest⟩ := List.forall_mem_cons.mp hbound
      cases values with
      | nil => simp
      | cons row values =>
          rw [List.forall₂_cons, List.forall₂_cons, hentries.resolve_text_iff hfirst, ih hrest]

end

/-! ## What a gateway does -/

variable {sql raw raw' : String}

theorem agree_of_entries {bindings bindings' : Bindings Value} (h : ρ.Entries bindings bindings')
    (hbound : AllBound bindings sql) {r : Resolved Value} (hr : resolve sql bindings = .ok r)
    (hraw : normalize raw = .ok sql) (hraw' : normalize raw' = .ok (ρ.text sql)) :
    Gateway.Agree raw (.named bindings) raw' (.named bindings') := by
  refine .of_build ?_
  rw [Gateway.build_named hraw, Gateway.build_named hraw', hr, h.resolve_text_eq hr hbound]

theorem updateNamedBatch_iff {g : Gateway} {rows rows' : List (Bindings Value)} {u : Update}
    (h : List.Forall₂ ρ.Entries rows rows') (hne : rows ≠ [])
    (hbound : ∀ bindings ∈ rows, AllBound bindings sql) (hraw : normalize raw = .ok sql)
    (hraw' : normalize raw' = .ok (ρ.text sql)) :
    g.updateNamedBatch raw' rows' = .ok u ↔ g.updateNamedBatch raw rows = .ok u := by
  have hne' : rows' ≠ [] := by
    rintro rfl
    cases h
    exact hne rfl
  rw [Gateway.updateNamedBatch_eq_ok_iff hraw hne, Gateway.updateNamedBatch_eq_ok_iff hraw' hne',
    forall₂_resolve_text_iff h hbound]

end Renaming

/-- The words of placeholders are only names. Renaming those of a text and of its bindings renames
those of the resolved text; the values stay. If all are bound nothing is different, and neither is
what a gateway does. -/
theorem resolve_renamed (ρ : Renaming) (sql : String) :
    (∀ {α : Type} [BEq α] {bindings bindings' : Bindings α}, ρ.Entries bindings bindings' →
      ((∃ r, resolve (ρ.text sql) bindings' = .ok r) ↔ ∃ r, resolve sql bindings = .ok r) ∧
      ∀ r, resolve sql bindings = .ok r →
        resolve (ρ.text sql) bindings' = .ok ⟨ρ.text r.sql, r.values⟩ ∧
        (AllBound bindings sql → resolve (ρ.text sql) bindings' = .ok r)) ∧
    (normalize sql = .ok sql → normalize (ρ.text sql) = .ok (ρ.text sql)) ∧
    ∀ {raw raw' : String}, normalize raw = .ok sql → normalize raw' = .ok (ρ.text sql) →
      (∀ {bindings bindings' : Bindings Value}, ρ.Entries bindings bindings' →
        AllBound bindings sql → (∃ r, resolve sql bindings = .ok r) →
          Gateway.Agree raw (.named bindings) raw' (.named bindings')) ∧
      ∀ {g : Gateway} {rows rows' : List (Bindings Value)} {u : Update},
        List.Forall₂ ρ.Entries rows rows' → rows ≠ [] →
          (∀ bindings ∈ rows, AllBound bindings sql) →
            (g.updateNamedBatch raw' rows' = .ok u ↔ g.updateNamedBatch raw rows = .ok u) := by
  refine ⟨fun {α} _ bindings bindings' h => ⟨?_, fun r hr => ?_⟩, fun hnormal => ?_,
    fun {raw raw'} hraw hraw' => ⟨?_, ?_⟩⟩
  · simp only [exists_resolve_iff, h.accepted_iff]
  · exact ⟨h.resolve_text hr, h.resolve_text_eq hr⟩
  · exact normalize_of_normal (Renaming.normal_text (normal_of_normalize hnormal))
  · rintro bindings bindings' h hbound ⟨r, hr⟩
    exact Renaming.agree_of_entries h hbound hr hraw hraw'
  · intro g rows rows' u h hne hbound
    exact Renaming.updateNamedBatch_iff h hne hbound hraw hraw'

/-- Puts the same word in front of all words. -/
def Renaming.prepend (start : List Char) (h : IsWord start) : Renaming where
  word w := start ++ w
  isWord_word _ hw := List.forall_mem_append.mpr ⟨h, hw⟩
  injective _ _ _ _ heq := List.append_cancel_left heq

/-- Two names, one the start of the other, are given a keyword to start with. -/
theorem resolve_renamed_keyword :
    let bindings : Bindings Value := [(" a", .one (.int 1)), ("ab", .many [.int 2, .null])]
    let bindings' : Bindings Value :=
      [("deletea ", .one (.int 1)), (":deleteab", .many [.int 2, .null])]
    ∃ ρ : Renaming, ρ.Entries bindings bindings' ∧ ρ.text "a:a :ab" = "a:deletea :deleteab" ∧
      resolve "a:deletea :deleteab" bindings' = .ok ⟨"a? ?, ?", [.int 1, .int 2, .null]⟩ ∧
      Gateway.Agree "a:a :ab" (.named bindings) "a:deletea :deleteab" (.named bindings') := by
  intro bindings bindings'
  let ρ := Renaming.prepend "delete".toList (List.all_eq_true.mp (by decide))
  have hentries : ρ.Entries bindings bindings' :=
    .cons ⟨by decide, rfl⟩ (.cons ⟨by decide, rfl⟩ .nil)
  have ha : isWord 'a' = true := by decide
  have hb : isWord 'b' = true := by decide
  have hspace : isWord ' ' = false := by decide
  have hpieces : pieces "a:a :ab".toList =
      [.plain 'a', .placeholder ['a'], .plain ' ', .placeholder ['a', 'b']] := by
    simp [pieces, ha, hb, hspace]
  have htext : ρ.text "a:a :ab" = "a:deletea :deleteab" := by
    rw [Renaming.text, hpieces]
    decide
  have hresolve : resolve "a:a :ab" bindings = .ok ⟨"a? ?, ?", [.int 1, .int 2, .null]⟩ := by
    rw [resolve_eq_ok_iff, hpieces]
    exact ⟨⟨_, rfl⟩, by decide, by decide⟩
  have hbound : AllBound bindings "a:a :ab" := by
    intro word hword
    simp only [hpieces, List.mem_cons, reduceCtorEq, Piece.placeholder.injEq, List.not_mem_nil,
      or_false, false_or] at hword
    rcases hword with rfl | rfl
    · exact ⟨_, rfl⟩
    · exact ⟨_, rfl⟩
  obtain ⟨hrenamed, hnormal, hagree⟩ := resolve_renamed ρ "a:a :ab"
  have hclean : normalize "a:a :ab" = .ok "a:a :ab" := rfl
  have hagain := ((hrenamed hentries).2 _ hresolve).2 hbound
  have hsame := (hagree hclean (hnormal hclean)).1 hentries hbound ⟨_, hresolve⟩
  rw [htext] at hagain hsame
  exact ⟨ρ, hentries, htext, hagain, hsame⟩

end Sql

end SqlGateway
