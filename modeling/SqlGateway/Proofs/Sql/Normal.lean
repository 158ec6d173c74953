import SqlGateway.Proofs.Sql.Comment
import SqlGateway.Proofs.Text.Trim
import SqlGateway.Sql.Normal

/-!
# Texts in normal form

What a text has to be for its preparation to leave it as it is, and that every prepared text is so.
Each of the four steps removes one kind of neighbours from the text, and none brings back what an
earlier one removed.
-/

namespace SqlGateway.Sql

open Text

/-- A text that is not empty, has no white space at its ends or side by side, and no delimiter of a
comment. -/
structure Normal (s : List Char) : Prop where
  nonempty : s ≠ []
  first : ∀ c ∈ s.head?, isBlank c = false
  last : ∀ c ∈ s.getLast?, isBlank c = false
  single : ∀ a b, [a, b] <:+: s → ¬ (isBlank a ∧ isBlank b)
  noLine : ¬ ['-', '-'] <:+: s
  noOpening : ¬ ['/', '*'] <:+: s
  noClosing : ¬ ['*', '/'] <:+: s

/-! ## Neighbours -/

/-- Neighbours that are not two dashes. -/
def Undashed (a b : Char) : Prop :=
  ¬ (a = '-' ∧ b = '-')

/-- Neighbours that are no delimiter of a comment. -/
def Undelimited (a b : Char) : Prop :=
  Undashed a b ∧ ¬ (a = '/' ∧ b = '*') ∧ ¬ (a = '*' ∧ b = '/')

/-- Neighbours in a text in normal form. -/
def Fits (a b : Char) : Prop :=
  Undelimited a b ∧ ¬ (isBlank a ∧ isBlank b)

theorem undelimited_of_blank_left {a : Char} (h : isBlank a) (b : Char) : Undelimited a b := by
  refine ⟨?_, ?_, ?_⟩ <;> rintro ⟨rfl, -⟩ <;> exact absurd h (by decide)

theorem undelimited_of_blank_right {b : Char} (h : isBlank b) (a : Char) : Undelimited a b := by
  refine ⟨?_, ?_, ?_⟩ <;> rintro ⟨-, rfl⟩ <;> exact absurd h (by decide)

theorem fits_space_left {c : Char} : Fits ' ' c ↔ isBlank c = false := by
  simp [Fits, undelimited_of_blank_left isBlank_space, isBlank_space]

theorem fits_space_right {c : Char} : Fits c ' ' ↔ isBlank c = false := by
  simp [Fits, undelimited_of_blank_right isBlank_space, isBlank_space]

theorem isChain_fits_iff {s : List Char} : s.IsChain Fits ↔
    (∀ a b, [a, b] <:+: s → ¬ (isBlank a ∧ isBlank b)) ∧ ¬ ['-', '-'] <:+: s ∧
      ¬ ['/', '*'] <:+: s ∧ ¬ ['*', '/'] <:+: s := by
  constructor
  · intro h
    have hpair : ∀ a b, [a, b] <:+: s → Fits a b := fun a b hab => by
      simpa using h.infix hab
    exact ⟨fun a b hab => (hpair a b hab).2, fun hab => (hpair _ _ hab).1.1 ⟨rfl, rfl⟩,
      fun hab => (hpair _ _ hab).1.2.1 ⟨rfl, rfl⟩, fun hab => (hpair _ _ hab).1.2.2 ⟨rfl, rfl⟩⟩
  · rintro ⟨hblank, hline, hopening, hclosing⟩
    apply List.isChain_iff_forall_rel_of_append_cons_cons.mpr
    intro a b u v huv
    have hab : [a, b] <:+: s := ⟨u, v, by simp [huv]⟩
    refine ⟨⟨?_, ?_, ?_⟩, hblank a b hab⟩
    · rintro ⟨rfl, rfl⟩
      exact hline hab
    · rintro ⟨rfl, rfl⟩
      exact hopening hab
    · rintro ⟨rfl, rfl⟩
      exact hclosing hab

/-- A text is in normal form if, between two spaces, all its neighbours fit. -/
theorem normal_iff {s : List Char} : Normal s ↔ (' ' :: (s ++ [' '])).IsChain Fits := by
  have hends : (' ' :: (s ++ [' '])).IsChain Fits ↔ s ≠ [] ∧
      (∀ c ∈ s.head?, isBlank c = false) ∧ (∀ c ∈ s.getLast?, isBlank c = false) ∧
        s.IsChain Fits := by
    cases s with
    | nil => simp [fits_space_left, isBlank_space]
    | cons c s =>
        rw [List.isChain_cons, List.isChain_append]
        simp only [List.cons_append, List.head?_cons, Option.mem_some_iff, forall_eq',
          fits_space_left, fits_space_right, List.isChain_singleton, true_and, ne_eq,
          reduceCtorEq, not_false_eq_true]
        tauto
  rw [hends, isChain_fits_iff]
  exact ⟨fun ⟨h1, h2, h3, h4, h5, h6, h7⟩ => ⟨h1, h2, h3, h4, h5, h6, h7⟩,
    fun ⟨h1, h2, h3, h4, h5, h6, h7⟩ => ⟨h1, h2, h3, h4, h5, h6, h7⟩⟩

/-! ## Cutting lines -/

theorem head_cutLines {inside : Bool} {s : List Char} {c : Char}
    (h : c ∈ (cutLines inside s).head?) : c = '\n' ∨ (inside = false ∧ c ∈ s.head?) := by
  fun_induction cutLines inside s with
  | case1 => simp at h
  | case2 _ s ih => exact .inl ((ih h).resolve_right (by simp))
  | case3 =>
      simp only [List.head?_cons, Option.mem_some_iff] at h
      exact .inl h.symm
  | case4 c s _ _ ih => exact .inl ((ih h).resolve_right (by simp))
  | case5 => simp_all

theorem isChain_cutLines (inside : Bool) (s : List Char) :
    (cutLines inside s).IsChain Undashed := by
  fun_induction cutLines inside s with
  | case1 => exact .nil
  | case2 _ s ih => exact ih
  | case3 _ s _ ih => exact List.isChain_cons.mpr ⟨fun c _ => by simp [Undashed], ih⟩
  | case4 c s _ _ ih => exact ih
  | case5 inside c s hdashes _ _ ih =>
      -- the dash that is kept would have to be followed by one that the cut leaves
      refine List.isChain_cons.mpr ⟨fun d hd => ?_, ih⟩
      rintro ⟨rfl, rfl⟩
      rcases head_cutLines hd with h | ⟨-, h⟩
      · cases h
      · obtain ⟨t, ht⟩ := List.head?_eq_some_iff.mp h
        exact hdashes t rfl ht

theorem cutLines_of_isChain {s : List Char} (h : s.IsChain Undashed) : cutLines false s = s := by
  generalize hi : false = inside
  fun_induction cutLines inside s with
  | case1 => rfl
  | case2 => exact absurd ⟨rfl, rfl⟩ (List.isChain_cons_cons.mp h).1
  | case3 _ s _ ih => simp [ih h.tail rfl]
  | case4 => cases hi
  | case5 _ c s _ _ _ ih => simp [ih h.tail rfl]

/-! ## Blanking comments out -/

theorem isChain_blanks_append {s : List Char} (k : Nat) (h : s.IsChain Undelimited) :
    (List.replicate k ' ' ++ s).IsChain Undelimited := by
  induction k with
  | zero => exact h
  | succ k ih =>
      exact List.isChain_cons.mpr ⟨fun c _ => undelimited_of_blank_left isBlank_space c, ih⟩

theorem head_strip {inside : Bool} {s : List Char} {c : Char} (h : c ∈ (strip inside s).head?) :
    c = ' ' ∨ c ∈ s.head? := by
  fun_induction strip inside s with
  | case1 => simp at h
  | case2 | case3 =>
      simp only [List.head?_cons, Option.mem_some_iff] at h
      exact .inl h.symm
  | case4 inside d s _ _ _ =>
      cases inside with
      | true =>
          obtain ⟨k, hk⟩ := Nat.exists_eq_add_one.mpr d.utf8Size_pos
          simp only [hk, if_true, List.replicate_succ, List.cons_append, List.head?_cons,
            Option.mem_some_iff] at h
          exact .inl h.symm
      | false => exact .inr (by simpa using h)

theorem isChain_strip {s : List Char} (inside : Bool) (h : s.IsChain Undashed) :
    (strip inside s).IsChain Undelimited := by
  fun_induction strip inside s with
  | case1 => exact .nil
  | case2 inside s ih => exact isChain_blanks_append 2 (ih h.tail.tail)
  | case3 inside s ih => exact isChain_blanks_append 2 (ih h.tail.tail)
  | case4 inside c s hopening hclosing ih =>
      cases inside with
      | true => exact isChain_blanks_append _ (ih h.tail)
      | false =>
          refine List.isChain_cons.mpr ⟨fun d hd => ?_, ih h.tail⟩
          rcases head_strip hd with rfl | hd
          · exact undelimited_of_blank_right isBlank_space c
          · obtain ⟨t, rfl⟩ := List.head?_eq_some_iff.mp hd
            refine ⟨(List.isChain_cons_cons.mp h).1, ?_, ?_⟩
            · rintro ⟨rfl, rfl⟩
              exact hopening t rfl rfl
            · rintro ⟨rfl, rfl⟩
              exact hclosing t rfl rfl

theorem delimiters_of_isChain {n : Nat} {s : List Char} (h : s.IsChain Undelimited) :
    delimiters n s = [] := by
  fun_induction delimiters n s with
  | case1 => rfl
  | case2 => exact absurd ⟨rfl, rfl⟩ (List.isChain_cons_cons.mp h).1.2.1
  | case3 => exact absurd ⟨rfl, rfl⟩ (List.isChain_cons_cons.mp h).1.2.2
  | case4 n c s _ _ ih => exact ih h.tail

/-! ## Collapsing white space -/

theorem head_collapse {s : List Char} {c : Char} (h : c ∈ (collapse s).head?) :
    c = ' ' ∨ c ∈ s.head? := by
  cases s with
  | nil => simp [collapse] at h
  | cons d s =>
      rw [collapse] at h
      split at h
      · exact .inr (by simpa using h)
      · split at h
        · simp only [List.head?_cons, Option.mem_some_iff] at h
          exact .inl h.symm
        · exact .inr (by simpa using h)

theorem isChain_collapse {s : List Char} (h : s.IsChain Undelimited) :
    (collapse s).IsChain Fits := by
  induction s with
  | nil => exact .nil
  | cons c s ih =>
      have ih := ih h.tail
      have hhead {d : Char} (hd : d ∈ (collapse s).head?) : Undelimited c d := by
        rcases head_collapse hd with rfl | hd
        · exact undelimited_of_blank_right isBlank_space c
        · exact (List.isChain_cons.mp h).1 d hd
      rw [collapse]
      split
      · exact .singleton c
      · rename_i d rest heq
        rw [heq] at ih hhead
        split
        · rename_i hblanks
          simp only [Bool.and_eq_true] at hblanks
          refine List.isChain_cons.mpr ⟨fun e he => ?_, ih.tail⟩
          -- `d` was white space, so what follows it is not
          have := ((List.isChain_cons.mp ih).1 e he).2
          simp_all [fits_space_left]
        · rename_i hblanks
          refine List.isChain_cons_cons.mpr ⟨⟨hhead rfl, ?_⟩, ih⟩
          simpa using hblanks

theorem collapse_of_isChain {s : List Char} (h : s.IsChain Fits) : collapse s = s := by
  induction s with
  | nil => rfl
  | cons c s ih =>
      rw [collapse, ih h.tail]
      cases s with
      | nil => rfl
      | cons d s =>
          have := (List.isChain_cons_cons.mp h).1.2
          simp_all

theorem blank_collapse (s : List Char) : blank (collapse s) = blank s := by
  induction s with
  | nil => rfl
  | cons c s ih =>
      rw [collapse]
      split
      · rename_i heq
        simp_all [blank]
      · rename_i d rest heq
        rw [heq] at ih
        split <;> simp_all [blank, isBlank_space]

/-! ## Prepared texts -/

/-- The text between the comments, trimmed and with its white space collapsed. -/
def cleaned (raw : List Char) : List Char :=
  trim (collapse (strip false (withoutLineComments raw)))

theorem normalForm_of_blank {raw : List Char} (h : blank raw = true) :
    normalForm raw = .error .missing := by
  simp [normalForm, h]
  rfl

theorem normalForm_of_error {raw : List Char} {reason : Malformed} (h : blank raw = false)
    (hspans : commentSpans (withoutLineComments raw) = .error reason) :
    normalForm raw = .error reason := by
  simp [normalForm, h, hspans]
  rfl

theorem normalForm_of_alternate {raw : List Char} (h : blank raw = false)
    (halt : Alternate (delimiters 0 (withoutLineComments raw))) :
    normalForm raw = if cleaned raw = [] then .error .onlyComments else .ok (cleaned raw) := by
  have hblank : blankOut 0 (comments (delimiters 0 (withoutLineComments raw)))
      (withoutLineComments raw) = strip false (withoutLineComments raw) :=
    ((scan_delimiters 0 (withoutLineComments raw)).1 halt).blankOut_eq
  simp only [normalForm, h, commentSpans_of_alternate halt, bind, Except.bind, hblank]
  change (if (cleaned raw).isEmpty = true then _ else pure (cleaned raw)) = _
  cases cleaned raw <;> rfl

theorem normalForm_eq_ok_iff {raw clean : List Char} : normalForm raw = .ok clean ↔
    blank raw = false ∧ Alternate (delimiters 0 (withoutLineComments raw)) ∧
      cleaned raw = clean ∧ clean ≠ [] := by
  cases hblank : blank raw with
  | true => simp [normalForm_of_blank hblank]
  | false =>
      cases hspans : commentSpans (withoutLineComments raw) with
      | error reason =>
          have : ¬ Alternate (delimiters 0 (withoutLineComments raw)) := fun halt => by
            simp [commentSpans_of_alternate halt] at hspans
          simp [normalForm_of_error hblank hspans, this]
      | ok spans =>
          have halt := (commentSpans_eq_ok_iff.mp hspans).1
          rw [normalForm_of_alternate hblank halt]
          split
          · rename_i hempty
            simp [hempty]
          · rename_i hne
            simp [halt]
            rintro rfl
            exact hne

theorem normalize_eq_ok_iff {raw clean : String} :
    normalize raw = .ok clean ↔ normalForm raw.toList = .ok clean.toList := by
  unfold normalize
  cases normalForm raw.toList with
  | error reason => simp
  | ok s => simp [String.ext_iff]

theorem normal_cleaned {raw : List Char} (h : cleaned raw ≠ []) : Normal (cleaned raw) := by
  have hcollapsed := isChain_collapse (isChain_strip false (isChain_cutLines false raw))
  have hchain : (cleaned raw).IsChain Fits := hcollapsed.infix (isInfix_trim _)
  obtain ⟨hsingle, hline, hopening, hclosing⟩ := isChain_fits_iff.mp hchain
  exact ⟨h, fun c => head_trim, fun c => getLast_trim, hsingle, hline, hopening, hclosing⟩

theorem normalForm_of_normal {s : List Char} (h : Normal s) : normalForm s = .ok s := by
  have hfits : s.IsChain Fits :=
    isChain_fits_iff.mpr ⟨h.single, h.noLine, h.noOpening, h.noClosing⟩
  have hlines : withoutLineComments s = s :=
    cutLines_of_isChain (hfits.imp fun a b hab => hab.1.1)
  have hds : delimiters 0 s = [] := delimiters_of_isChain (hfits.imp fun a b hab => hab.1)
  have hstrip : strip false s = s := by
    have hscan := (scan_delimiters 0 s).1 (hds ▸ .nil)
    rw [← hscan.blankOut_eq, hds]
    cases s <;> rfl
  have hcleaned : cleaned s = s := by
    rw [cleaned, hlines, hstrip, collapse_of_isChain hfits, trim_of_ends h.first h.last]
  have hblank : blank s = false := by
    obtain ⟨c, t, rfl⟩ := List.exists_cons_of_ne_nil h.nonempty
    simp [blank, h.first c rfl]
  exact normalForm_eq_ok_iff.mpr ⟨hblank, by rw [hlines, hds]; exact .nil, hcleaned, h.nonempty⟩

theorem normal_of_normalize {raw clean : String} (h : normalize raw = .ok clean) :
    Normal clean.toList := by
  obtain ⟨-, -, hcleaned, hne⟩ := normalForm_eq_ok_iff.mp (normalize_eq_ok_iff.mp h)
  exact hcleaned ▸ normal_cleaned (hcleaned ▸ hne)

theorem normalize_of_normal {clean : String} (h : Normal clean.toList) :
    normalize clean = .ok clean :=
  normalize_eq_ok_iff.mpr (normalForm_of_normal h)

/-- What comes out of the preparation is what the preparation leaves alone: the texts in normal
form. So to prepare a text once more changes nothing. -/
theorem normalize_normal (s : String) :
    ((∃ raw, normalize raw = .ok s) ↔ Normal s.toList) ∧
      (normalize s = .ok s ↔ Normal s.toList) ∧
      (normalize s >>= normalize) = normalize s := by
  have hnormal {raw clean : String} (h : normalize raw = .ok clean) : Normal clean.toList := by
    obtain ⟨-, -, hclean, hne⟩ := normalForm_eq_ok_iff.mp (normalize_eq_ok_iff.mp h)
    exact hclean ▸ normal_cleaned (hclean ▸ hne)
  have hfixed {clean : String} (h : Normal clean.toList) : normalize clean = .ok clean :=
    normalize_eq_ok_iff.mpr (normalForm_of_normal h)
  have hidem : (normalize s >>= normalize) = normalize s := by
    cases h : normalize s with
    | error e => rfl
    | ok clean => exact hfixed (hnormal h)
  exact ⟨⟨fun ⟨raw, h⟩ => hnormal h, fun h => ⟨s, hfixed h⟩⟩, ⟨hnormal, hfixed⟩, hidem⟩

/-- A comment leaves white space, which keeps apart what stood on both sides of it. -/
example : normalize "-/**/-" = .ok "- -" := rfl

end SqlGateway.Sql
