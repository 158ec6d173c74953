import SqlGateway.Proofs.Sql.Normal

/-!
# Words of a text

A text that is prepared keeps its words, which are what white space keeps apart once each line is
cut at its first `--` and each block comment has given way to white space. The steps that collapse
and trim white space change no word, and a comment leaves at least four spaces behind.
-/

namespace SqlGateway.Sql

open Text

/-! ## Words -/

/-- The longest pieces of a text without white space. -/
def words (s : List Char) : List (List Char) :=
  (s.splitOnP isBlank).filter (· ≠ [])

variable {c : Char} {s t w : List Char}

theorem words_append_cons (hc : isBlank c) (s t : List Char) :
    words (s ++ c :: t) = words s ++ words t := by
  rw [words, List.splitOnP_append_cons s t hc, List.filter_append]
  rfl

theorem words_nil : words [] = [] := by
  simp [words]

theorem words_cons_of_blank (hc : isBlank c) (s : List Char) : words (c :: s) = words s := by
  simpa [words_nil] using words_append_cons hc [] s

theorem words_append_of_blank (hw : ∀ c ∈ w, isBlank c) (s : List Char) :
    words (w ++ s) = words s := by
  induction w with
  | nil => rfl
  | cons c w ih =>
      simp only [List.mem_cons, forall_eq_or_imp] at hw
      rw [List.cons_append, words_cons_of_blank hw.1, ih hw.2]

/-- White space between two texts keeps their words apart. -/
theorem words_append (hne : w ≠ []) (hw : ∀ c ∈ w, isBlank c) (s t : List Char) :
    words (s ++ (w ++ t)) = words s ++ words t := by
  cases w with
  | nil => exact absurd rfl hne
  | cons c w =>
      simp only [List.mem_cons, forall_eq_or_imp] at hw
      rw [List.cons_append, words_append_cons hw.1, words_append_of_blank hw.2]

theorem words_append_blank (hw : ∀ c ∈ w, isBlank c) (s : List Char) :
    words (s ++ w) = words s := by
  by_cases hne : w = []
  · simp [hne]
  · simpa [words_nil] using words_append hne hw s []

/-- The words of a text are, end to end, what it has besides white space. -/
theorem flatten_words (s : List Char) : (words s).flatten = s.filter (!isBlank ·) := by
  rw [words, List.flatten_filter_ne_nil]
  induction s with
  | nil => simp
  | cons c s ih =>
      obtain ⟨first, rest, hs⟩ := List.exists_cons_of_ne_nil (List.splitOnP_ne_nil isBlank s)
      rw [List.splitOnP_cons_eq_if_modifyHead]
      cases hc : isBlank c with
      | true => simp [hc, ih]
      | false =>
          rw [hs] at ih ⊢
          simp [hc, ← ih]

/-! ## What keeps the words -/

/-- The first word of a text that does not start with white space, and nothing otherwise. -/
def lead (s : List Char) : List Char :=
  s.takeWhile (!isBlank ·)

theorem words_eq (s : List Char) :
    words s = words (lead s) ++ words (s.dropWhile (!isBlank ·)) := by
  conv_lhs => rw [← List.takeWhile_append_dropWhile (p := (!isBlank ·)) (l := s)]
  cases hrest : s.dropWhile (!isBlank ·) with
  | nil => simp [words_nil, lead]
  | cons c t =>
      have hc : isBlank c := by
        have := List.head?_dropWhile_not (!isBlank ·) s
        simpa [hrest] using this
      rw [words_append_cons hc, words_cons_of_blank hc]
      rfl

/-- A character before two texts that have the same words joins the same word. -/
theorem words_cons_congr (hlead : lead s = lead t) (h : words s = words t) (c : Char) :
    words (c :: s) = words (c :: t) := by
  cases hc : isBlank c with
  | true => rw [words_cons_of_blank hc, words_cons_of_blank hc, h]
  | false =>
      rw [words_eq s, words_eq t, hlead] at h
      have hrest := List.append_cancel_left h
      rw [words_eq (c :: s), words_eq (c :: t)]
      simp only [lead] at hlead
      simp [lead, hc, hlead, hrest]

theorem lead_collapse (s : List Char) : lead (collapse s) = lead s := by
  induction s with
  | nil => rfl
  | cons c s ih =>
      rw [collapse]
      split
      · rename_i heq
        rw [heq] at ih
        cases hc : isBlank c <;> simp_all [lead]
      · rename_i d rest heq
        rw [heq] at ih
        split <;> cases hc : isBlank c <;> simp_all [lead, isBlank_space]

theorem words_collapse (s : List Char) : words (collapse s) = words s := by
  induction s with
  | nil => rfl
  | cons c s ih =>
      have hcons : words (c :: collapse s) = words (c :: s) :=
        words_cons_congr (lead_collapse s) ih c
      rw [collapse]
      split
      · rename_i heq
        rwa [heq] at hcons
      · rename_i d rest heq
        rw [heq] at hcons
        split
        · rename_i hblanks
          simp only [Bool.and_eq_true] at hblanks
          rw [← hcons, words_cons_of_blank hblanks.1, words_cons_of_blank hblanks.2,
            words_cons_of_blank isBlank_space]
        · exact hcons

theorem words_trim (s : List Char) : words (trim s) = words s := by
  have hstart : words (trimStart s) = words s := by
    conv_rhs => rw [← List.takeWhile_append_dropWhile (p := isBlank) (l := s)]
    rw [words_append_of_blank fun c hc => List.mem_takeWhile_imp hc]
    rfl
  rw [← hstart]
  conv_rhs => rw [← List.rdropWhile_append_rtakeWhile (p := isBlank) (l := trimStart s)]
  rw [words_append_blank fun c hc => List.mem_rtakeWhile_imp hc]
  rfl

/-! ## What stands between the comments -/

/-- A text without a delimiter of a comment. -/
structure Plain (s : List Char) : Prop where
  noOpening : ¬ ['/', '*'] <:+: s
  noClosing : ¬ ['*', '/'] <:+: s

/-- The pieces of a text between its block comments. Each comment starts at the first delimiter
after the one before it, and ends with the next one. -/
inductive Pieces : List Char → List (List Char) → Prop
  | last {p : List Char} (hp : Plain p) : Pieces p [p]
  | comment {p c s : List Char} {ps : List (List Char)} (hp : Plain (p ++ ['/']))
      (hc : Plain (c ++ ['*'])) (h : Pieces s ps) :
      Pieces (p ++ '/' :: '*' :: (c ++ '*' :: '/' :: s)) (p :: ps)

/-- A text made of pieces with white space between them. -/
inductive Spaced : List (List Char) → List Char → Prop
  | last (p : List Char) : Spaced [p] p
  | gap {p w s : List Char} {ps : List (List Char)} (hne : w ≠ []) (hw : ∀ c ∈ w, isBlank c)
      (h : Spaced ps s) : Spaced (p :: ps) (p ++ (w ++ s))

theorem Spaced.words_eq {ps : List (List Char)} (h : Spaced ps s) : words s = ps.flatMap words := by
  induction h with
  | last p => simp
  | gap hne hw h ih => rw [words_append hne hw, ih, List.flatMap_cons]

theorem plain_cons (hopen : ∀ t, c = '/' → s = '*' :: t → False)
    (hclose : ∀ t, c = '*' → s = '/' :: t → False) (h : Plain s) : Plain (c :: s) where
  noOpening hin := by
    rcases List.infix_cons_iff.mp hin with hhead | hin
    · obtain ⟨t, ht⟩ := hhead
      simp only [List.cons_append, List.nil_append, List.cons.injEq] at ht
      exact hopen t ht.1.symm ht.2.symm
    · exact h.noOpening hin
  noClosing hin := by
    rcases List.infix_cons_iff.mp hin with hhead | hin
    · obtain ⟨t, ht⟩ := hhead
      simp only [List.cons_append, List.nil_append, List.cons.injEq] at ht
      exact hclose t ht.1.symm ht.2.symm
    · exact h.noClosing hin

theorem plain_nil : Plain [] := by
  constructor <;> simp

theorem Plain.tail (h : Plain (c :: s)) : Plain s where
  noOpening hin := h.noOpening (hin.trans (List.suffix_cons c s).isInfix)
  noClosing hin := h.noClosing (hin.trans (List.suffix_cons c s).isInfix)

/-- A character before a text that goes on after `p` makes no delimiter with it, and so none
with `p`. -/
theorem plain_cons_append {p : List Char} {d : Char}
    (hopen : ∀ t, c = '/' → p ++ d :: s = '*' :: t → False)
    (hclose : ∀ t, c = '*' → p ++ d :: s = '/' :: t → False) (h : Plain (p ++ [d])) :
    Plain (c :: p ++ [d]) := by
  apply plain_cons _ _ h
  · intro t hc ht
    exact hopen (t ++ s) hc (by simpa using congrArg (· ++ s) ht)
  · intro t hc ht
    exact hclose (t ++ s) hc (by simpa using congrArg (· ++ s) ht)

theorem Pieces.cons (hopen : ∀ t, c = '/' → s = '*' :: t → False)
    (hclose : ∀ t, c = '*' → s = '/' :: t → False) {ps : List (List Char)} (h : Pieces s ps) :
    ∃ qs, Pieces (c :: s) qs := by
  cases h with
  | last hp => exact ⟨_, .last (plain_cons hopen hclose hp)⟩
  | comment hp hc h => exact ⟨_, .comment (plain_cons_append hopen hclose hp) hc h⟩

/-- If the delimiters take turns, the text has pieces; and so has what follows a comment that is
open where the text starts. -/
theorem exists_pieces (n : Nat) (s : List Char) :
    (Alternate (delimiters n s) → ∃ ps, Pieces s ps) ∧
      ∀ {d ds}, delimiters n s = d :: ds → d.opens = false → Alternate ds →
        ∃ u v ps, s = u ++ '*' :: '/' :: v ∧ Plain (u ++ ['*']) ∧ Pieces v ps := by
  have hstar : Plain ['*'] := plain_cons (by simp) (by simp) plain_nil
  have hslash : Plain ['/'] := plain_cons (by simp) (by simp) plain_nil
  fun_induction delimiters n s with
  | case1 => exact ⟨fun _ => ⟨_, .last plain_nil⟩, by simp⟩
  | case2 n s ih =>
      constructor
      · intro h
        obtain ⟨-, d, ds, hds, hd, h⟩ := alternate_cons.mp h
        obtain ⟨u, v, ps, rfl, hu, hps⟩ := ih.2 hds hd h
        exact ⟨_, .comment (p := []) hslash hu hps⟩
      · intro _ _ h hd
        cases h
        cases hd
  | case3 n s ih =>
      constructor
      · intro h
        exact absurd (alternate_cons.mp h).1 (by simp)
      · intro _ _ h _ hds
        cases h
        obtain ⟨ps, hps⟩ := ih.1 hds
        exact ⟨[], s, ps, rfl, hstar, hps⟩
  | case4 n c s hopen hclose ih =>
      constructor
      · intro h
        obtain ⟨ps, hps⟩ := ih.1 h
        exact hps.cons hopen hclose
      · intro d ds h hd hds
        obtain ⟨u, v, ps, rfl, hu, hps⟩ := ih.2 h hd hds
        exact ⟨c :: u, v, ps, rfl, plain_cons_append hopen hclose hu, hps⟩

/-! ## Words of a stripped text -/

theorem strip_cons (hopen : ∀ t, c = '/' → s = '*' :: t → False)
    (hclose : ∀ t, c = '*' → s = '/' :: t → False) (inside : Bool) :
    strip inside (c :: s) =
      (if inside then List.replicate c.utf8Size ' ' else [c]) ++ strip inside s :=
  strip.eq_4 inside c s hopen hclose

theorem strip_plain (h : Plain s) : strip false s = s := by
  induction s with
  | nil => rfl
  | cons c s ih =>
      have hopen : ∀ t, c = '/' → s = '*' :: t → False := by
        rintro t rfl rfl
        exact h.noOpening ⟨[], t, rfl⟩
      have hclose : ∀ t, c = '*' → s = '/' :: t → False := by
        rintro t rfl rfl
        exact h.noClosing ⟨[], t, rfl⟩
      rw [strip_cons hopen hclose, ih h.tail]
      rfl

/-- Up to its first delimiter a text is kept outside a comment and blanked out inside one. -/
theorem strip_append {d : Char} {p t : List Char} (h : Plain (p ++ [d])) (inside : Bool) :
    strip inside (p ++ d :: t) =
      (if inside then List.replicate (utf8Length p) ' ' else p) ++ strip inside (d :: t) := by
  induction p with
  | nil => simp [utf8Length]
  | cons c p ih =>
      -- two characters at the start of the whole text are there without `t` as well
      have hstart {a b : Char} {u : List Char} (hc : c = a) (hu : p ++ d :: t = b :: u) :
          [a, b] <:+: c :: (p ++ [d]) := by
        have hhead : [a, b] <+: c :: (p ++ d :: t) := ⟨u, by simp [hc, hu]⟩
        exact (List.prefix_of_prefix_length_le hhead ⟨t, by simp⟩ (by simp)).isInfix
      rw [List.cons_append, strip_cons (fun u hc hu => h.noOpening (hstart hc hu))
        (fun u hc hu => h.noClosing (hstart hc hu)), ih h.tail]
      cases inside with
      | true => simp [utf8Length, ← List.replicate_append_replicate]
      | false => rfl

theorem Pieces.words_strip {ps : List (List Char)} (h : Pieces s ps) :
    words (strip false s) = ps.flatMap words := by
  induction h with
  | last hp => simp [strip_plain hp]
  | @comment p c s ps hp hc h ih =>
      have hstrip : strip false (p ++ '/' :: '*' :: (c ++ '*' :: '/' :: s)) =
          p ++ ([' ', ' '] ++ List.replicate (utf8Length c) ' ' ++ [' ', ' '] ++
            strip false s) := by
        rw [strip_append hp, strip, strip_append hc, strip]
        simp
      rw [hstrip, words_append (by simp) (by simp +contextual [or_imp, isBlank_space]), ih,
        List.flatMap_cons]

/-! ## Words of a prepared text -/

theorem words_cleaned (raw : List Char) :
    words (cleaned raw) = words (strip false (withoutLineComments raw)) := by
  rw [cleaned, words_trim, words_collapse]

/-- The words of a prepared text, in order, are those of the text without line comments in which
any white space stands for each block comment. They are the words of the pieces between the block
comments: none is lost, made up or moved, and no two are joined. -/
theorem normalize_words {raw clean : String} (h : normalize raw = .ok clean) :
    let text := ['\n'].intercalate ((raw.toList.splitOn '\n').map cutLine)
    (∃ ps, Pieces text ps) ∧ ∀ ps, Pieces text ps →
      (∀ s, Spaced ps s → words clean.toList = words s) ∧
        words clean.toList = ps.flatMap words ∧
        clean.toList.filter (!isBlank ·) = ps.flatten.filter (!isBlank ·) := by
  intro text
  obtain ⟨-, halt, hclean, -⟩ := normalForm_eq_ok_iff.mp (normalize_eq_ok_iff.mp h)
  have htext : withoutLineComments raw.toList = text := withoutLineComments_eq raw.toList
  rw [htext] at halt
  refine ⟨(exists_pieces 0 text).1 halt, fun ps hps => ?_⟩
  have hwords : words clean.toList = ps.flatMap words := by
    rw [← hclean, words_cleaned, htext, hps.words_strip]
  refine ⟨fun s hs => hwords.trans hs.words_eq.symm, hwords, ?_⟩
  calc clean.toList.filter (!isBlank ·) = (ps.flatMap words).flatten := by
        rw [← flatten_words, hwords]
    _ = ps.flatMap fun p => (words p).flatten := by
        simp [List.flatMap, List.flatten_flatten, Function.comp_def]
    _ = ps.flatten.filter (!isBlank ·) := by
        simp only [flatten_words, List.filter_flatten, List.flatMap]

/-- A line comment inside a block comment hides the delimiter that follows it. -/
theorem normalize_words_line_in_block :
    normalize "SELECT /* a -- b */ 1\n*/ é/**/FROM" = .ok "SELECT é FROM" ∧
      ∃ ps, Pieces "SELECT /* a \n*/ é/**/FROM".toList ps ∧
        ps.flatMap words = ["SELECT".toList, "é".toList, "FROM".toList] := by
  have h : normalize "SELECT /* a -- b */ 1\n*/ é/**/FROM" = .ok "SELECT é FROM" := rfl
  have htext : ['\n'].intercalate
      (("SELECT /* a -- b */ 1\n*/ é/**/FROM".toList.splitOn '\n').map cutLine) =
        "SELECT /* a \n*/ é/**/FROM".toList := by
    decide +kernel
  have hclean : words "SELECT é FROM".toList = ["SELECT".toList, "é".toList, "FROM".toList] := by
    decide +kernel
  obtain ⟨⟨ps, hps⟩, hall⟩ := normalize_words h
  have hwords := (hall ps hps).2.1
  rw [htext] at hps
  exact ⟨h, ps, hps, hwords.symm.trans hclean⟩

end SqlGateway.Sql
