import Mathlib.Data.List.Chain
import SqlGateway.Sql.Comment

/-!
# Delimiters of comments

A text loses its line comments line by line, each line at its first `--`. In what is left the
delimiters of block comments are found from left to right without overlap, which can be done in one
way only.
-/

namespace SqlGateway.Sql

open Text

/-! ## Lines -/

/-- A line up to its first `--`. -/
def cutLine : List Char → List Char
  | [] => []
  | '-' :: '-' :: _ => []
  | c :: s => c :: cutLine s

theorem cutLines_true (s : List Char) :
    cutLines true s = cutLines false (s.dropWhile (· != '\n')) := by
  generalize hi : true = inside
  fun_induction cutLines inside s with
  | case1 => rfl
  | case2 _ s ih => simpa using ih rfl
  | case3 _ s h => simp [cutLines]
  | case4 c s h hc ih => simpa [hc] using ih rfl
  | case5 _ c s h hc hf => exact absurd hi.symm hf

/-- What follows a line starts with a line feed, if anything follows it. -/
theorem cutLines_append {line rest : List Char} (hline : '\n' ∉ line)
    (hrest : ∀ c ∈ rest.head?, c = '\n') :
    cutLines false (line ++ rest) = cutLine line ++ cutLines false rest := by
  induction line using cutLine.induct with
  | case1 => rfl
  | case2 s =>
      have hs : ∀ c ∈ s, (c != '\n') = true := by
        intro c hc
        have : c ≠ '\n' := by rintro rfl; simp [hc] at hline
        simpa using this
      have hdrop : rest.dropWhile (· != '\n') = rest := by
        cases rest with
        | nil => rfl
        | cons c rest => simp [hrest c rfl]
      simp only [List.cons_append, cutLines, cutLine, List.nil_append]
      rw [cutLines_true, List.dropWhile_append_of_pos hs, hdrop]
  | case3 c s hc ih =>
      have hne : c ≠ '\n' := fun h => hline (by simp [h])
      have hdashes : ∀ t, c = '-' → s ++ rest = '-' :: t → False := by
        intro t h ht
        cases s with
        | nil => exact absurd (hrest '-' (by simpa using congrArg List.head? ht)) (by decide)
        | cons d s => exact hc s h (by simp_all)
      rw [List.cons_append, cutLines.eq_3 _ _ _ hdashes, cutLine.eq_3 _ _ hc]
      simpa [hne] using ih fun h => hline (List.mem_cons_of_mem c h)

theorem withoutLineComments_intercalate {lines : List (List Char)} (hne : lines ≠ [])
    (hlines : ∀ line ∈ lines, '\n' ∉ line) :
    withoutLineComments (['\n'].intercalate lines) = ['\n'].intercalate (lines.map cutLine) := by
  induction lines with
  | nil => exact absurd rfl hne
  | cons line lines ih =>
      have hline := hlines line List.mem_cons_self
      cases lines with
      | nil =>
          have hcut : cutLines false (line ++ []) = cutLine line ++ cutLines false [] :=
            cutLines_append hline (by simp)
          simpa [withoutLineComments, cutLines] using hcut
      | cons next lines =>
          have := ih (by simp) fun l hl => hlines l (List.mem_cons_of_mem line hl)
          simp only [List.map_cons, List.intercalate_cons_cons, List.append_assoc] at this ⊢
          rw [← this]
          exact cutLines_append hline (by simp)

theorem not_mem_of_mem_splitOn {x : Char} {s line : List Char} (h : line ∈ s.splitOn x) :
    x ∉ line := by
  induction s generalizing line with
  | nil => simp_all
  | cons c s ih =>
      obtain ⟨first, rest, hs⟩ := List.exists_cons_of_ne_nil (List.splitOn_ne_nil x s)
      have hfirst : x ∉ first := ih (by simp [hs])
      rw [List.splitOn_eq_splitOnP, List.splitOnP_cons_eq_if_modifyHead,
        ← List.splitOn_eq_splitOnP] at h
      split at h
      · rcases List.mem_cons.mp h with rfl | h
        · simp
        · exact ih h
      · rename_i hc
        rw [hs, List.modifyHead_cons] at h
        rcases List.mem_cons.mp h with rfl | h
        · have : x ≠ c := fun h => hc (by simp [h])
          simp [this, hfirst]
        · exact ih (by simp [hs, h])

/-- The text without line comments is made of the lines, each up to its first `--`. -/
theorem withoutLineComments_eq (s : List Char) :
    withoutLineComments s = ['\n'].intercalate ((s.splitOn '\n').map cutLine) := by
  have h := withoutLineComments_intercalate (List.splitOn_ne_nil '\n' s)
    fun line hline => not_mem_of_mem_splitOn hline
  rwa [List.intercalate_splitOn] at h

/-! ## Delimiters -/

def Delimiter.text (d : Delimiter) : List Char :=
  if d.opens then ['/', '*'] else ['*', '/']

theorem Delimiter.text_eq (d : Delimiter) :
    ∃ a b, d.text = [a, b] ∧ a.utf8Size = 1 ∧ b.utf8Size = 1 := by
  unfold Delimiter.text
  split
  · exact ⟨'/', '*', rfl, by decide, by decide⟩
  · exact ⟨'*', '/', rfl, by decide, by decide⟩

theorem Delimiter.text_ne_nil (d : Delimiter) : d.text ≠ [] := by
  obtain ⟨a, b, htext, -⟩ := d.text_eq
  simp [htext]

theorem Delimiter.utf8Length_text_append (d : Delimiter) (s : List Char) :
    utf8Length (d.text ++ s) = utf8Length s + 2 := by
  obtain ⟨a, b, htext, ha, hb⟩ := d.text_eq
  simp only [htext, List.cons_append, List.nil_append, utf8Length]
  omega

theorem Delimiter.opens_eq_of_text {d e : Delimiter} {s t : List Char}
    (h : d.text ++ s = e.text ++ t) : d.opens = e.opens := by
  cases hd : d.opens <;> cases he : e.opens <;> simp_all [Delimiter.text]

/-- Where a text starts with a delimiter, another stands with it, at its second character, or after
it. -/
theorem Delimiter.stands_after {d e : Delimiter} {s u v : List Char}
    (h : d.text ++ s = u ++ e.text ++ v) :
    u = [] ∨ utf8Length u = 1 ∨ ∃ w, u = d.text ++ w ∧ s = w ++ e.text ++ v := by
  obtain ⟨a, b, htext, ha, hb⟩ := d.text_eq
  rw [htext] at h ⊢
  match u, h with
  | [], _ => exact .inl rfl
  | [x], h =>
      obtain rfl : a = x := by simpa using congrArg List.head? h
      exact .inr (.inl ha)
  | x :: y :: w, h =>
      simp only [List.cons_append, List.nil_append, List.cons.injEq] at h
      obtain ⟨rfl, rfl, h⟩ := h
      exact .inr (.inr ⟨w, rfl, h⟩)

theorem le_offset {n : Nat} {s : List Char} {d : Delimiter} (h : d ∈ delimiters n s) :
    n ≤ d.offset := by
  fun_induction delimiters n s with
  | case1 => simp at h
  | case2 n s ih | case3 n s ih =>
      rcases List.mem_cons.mp h with rfl | h
      · exact Nat.le_refl _
      · have := ih h
        omega
  | case4 n c s _ _ ih =>
      have := ih h
      omega

theorem delimiters_apart (n : Nat) (s : List Char) :
    (delimiters n s).Pairwise fun d e => d.offset + 2 ≤ e.offset := by
  fun_induction delimiters n s with
  | case1 => exact .nil
  | case2 n s ih | case3 n s ih => exact .cons (fun _ h => le_offset h) ih
  | case4 n c s _ _ ih => exact ih

/-- The delimiters of a text that starts at `n`, found from left to right without overlap: each
stands at its offset, and where one stands that was not found, it overlaps one found before it. -/
structure Found (n : Nat) (s : List Char) (ds : List Delimiter) : Prop where
  stands : ∀ d ∈ ds, ∃ u v, s = u ++ d.text ++ v ∧ n + utf8Length u = d.offset
  apart : ds.Pairwise fun d e => d.offset + 2 ≤ e.offset
  leftmost : ∀ u d v, s = u ++ Delimiter.text d ++ v →
    ∃ e ∈ ds, n + utf8Length u = e.offset ∨ n + utf8Length u = e.offset + 1

namespace Found

variable {n : Nat} {s : List Char} {ds : List Delimiter}

theorem delimiter (opens : Bool) (hds : ∀ d ∈ ds, n + 2 ≤ d.offset) (h : Found (n + 2) s ds) :
    Found n (Delimiter.text ⟨opens, n⟩ ++ s) (⟨opens, n⟩ :: ds) where
  stands d hd := by
    rcases List.mem_cons.mp hd with rfl | hd
    · exact ⟨[], s, rfl, rfl⟩
    · obtain ⟨u, v, rfl, hu⟩ := h.stands d hd
      have hlength := Delimiter.utf8Length_text_append ⟨opens, n⟩ u
      exact ⟨Delimiter.text ⟨opens, n⟩ ++ u, v, by simp, by omega⟩
  apart := .cons hds h.apart
  leftmost u d v huv := by
    rcases Delimiter.stands_after huv with rfl | hu | ⟨w, rfl, hs⟩
    · exact ⟨_, List.mem_cons_self, .inl rfl⟩
    · exact ⟨_, List.mem_cons_self, .inr (by rw [hu])⟩
    · obtain ⟨e, he, hoffset⟩ := h.leftmost w d v hs
      have hlength := Delimiter.utf8Length_text_append ⟨opens, n⟩ w
      exact ⟨e, List.mem_cons_of_mem _ he, by omega⟩

theorem plain {c : Char} (hnone : ∀ d v, c :: s ≠ Delimiter.text d ++ v)
    (h : Found (n + c.utf8Size) s ds) : Found n (c :: s) ds where
  stands d hd := by
    obtain ⟨u, v, rfl, hu⟩ := h.stands d hd
    exact ⟨c :: u, v, rfl, by simp only [utf8Length]; omega⟩
  apart := h.apart
  leftmost u d v huv := by
    cases u with
    | nil => exact absurd huv (hnone d v)
    | cons x u =>
        simp only [List.cons_append, List.cons.injEq] at huv
        obtain ⟨rfl, huv⟩ := huv
        obtain ⟨e, he, hoffset⟩ := h.leftmost u d v huv
        exact ⟨e, he, by simp only [utf8Length]; omega⟩

theorem le_offset (h : Found n s ds) {d : Delimiter} (hd : d ∈ ds) : n ≤ d.offset := by
  obtain ⟨u, v, -, hu⟩ := h.stands d hd
  omega

theorem eq_of_offset {opens : Bool} (h : Found n (Delimiter.text ⟨opens, n⟩ ++ s) ds)
    {d : Delimiter} (hd : d ∈ ds) (hn : d.offset = n) : d = ⟨opens, n⟩ := by
  obtain ⟨u, v, huv, hu⟩ := h.stands d hd
  cases u with
  | nil =>
      have hopens := Delimiter.opens_eq_of_text huv
      cases d
      simp_all
  | cons x u =>
      have := x.utf8Size_pos
      simp only [utf8Length] at hu
      omega

/-- A delimiter at the start of a text is the first that is found. -/
theorem of_delimiter (opens : Bool) (h : Found n (Delimiter.text ⟨opens, n⟩ ++ s) ds) :
    ∃ rest, ds = ⟨opens, n⟩ :: rest ∧ Found (n + 2) s rest := by
  obtain ⟨e, he, hoffset⟩ := h.leftmost [] ⟨opens, n⟩ s rfl
  have hn : e.offset = n := by
    have := h.le_offset he
    simp only [utf8Length] at hoffset
    omega
  obtain rfl := h.eq_of_offset he hn
  cases ds with
  | nil => cases he
  | cons d ds =>
      obtain ⟨hfirst, hapart⟩ := List.pairwise_cons.mp h.apart
      obtain rfl : ⟨opens, n⟩ = d := by
        rcases List.mem_cons.mp he with heq | he
        · exact heq
        · have := hfirst _ he
          have := h.le_offset List.mem_cons_self
          omega
      have hrest : Found (n + 2) s ds := {
        stands := fun d hd => by
          obtain ⟨u, v, huv, hu⟩ := h.stands d (List.mem_cons_of_mem _ hd)
          have hlater := hfirst d hd
          rcases Delimiter.stands_after huv with rfl | hlength | ⟨w, rfl, hs⟩
          · simp only [utf8Length] at hu hlater
            omega
          · simp only [hlength] at hu hlater
            omega
          · rw [Delimiter.utf8Length_text_append] at hu
            exact ⟨w, v, hs, by omega⟩
        apart := hapart
        leftmost := fun u d v huv => by
          obtain ⟨e, he, hoffset⟩ :=
            h.leftmost (Delimiter.text ⟨opens, n⟩ ++ u) d v (by simp [huv])
          rw [Delimiter.utf8Length_text_append] at hoffset
          rcases List.mem_cons.mp he with rfl | he
          · simp only at hoffset
            omega
          · exact ⟨e, he, by omega⟩ }
      exact ⟨ds, rfl, hrest⟩

theorem of_plain {c : Char} (hnone : ∀ d v, c :: s ≠ Delimiter.text d ++ v)
    (h : Found n (c :: s) ds) : Found (n + c.utf8Size) s ds where
  stands d hd := by
    obtain ⟨u, v, huv, hu⟩ := h.stands d hd
    cases u with
    | nil => exact absurd huv (hnone d v)
    | cons x u =>
        simp only [List.cons_append, List.cons.injEq] at huv
        obtain ⟨rfl, huv⟩ := huv
        simp only [utf8Length] at hu
        exact ⟨u, v, huv, by omega⟩
  apart := h.apart
  leftmost u d v huv := by
    obtain ⟨e, he, hoffset⟩ := h.leftmost (c :: u) d v (by simp [huv])
    simp only [utf8Length] at hoffset
    exact ⟨e, he, by omega⟩

end Found

theorem ne_text_append {c : Char} {s : List Char} (hopen : ∀ t, c = '/' → s = '*' :: t → False)
    (hclose : ∀ t, c = '*' → s = '/' :: t → False) (d : Delimiter) (v : List Char) :
    c :: s ≠ d.text ++ v := by
  intro h
  cases hd : d.opens with
  | true =>
      obtain ⟨hc, hs⟩ : c = '/' ∧ s = '*' :: v := by simpa [Delimiter.text, hd] using h
      exact hopen v hc hs
  | false =>
      obtain ⟨hc, hs⟩ : c = '*' ∧ s = '/' :: v := by simpa [Delimiter.text, hd] using h
      exact hclose v hc hs

theorem found_delimiters (n : Nat) (s : List Char) : Found n s (delimiters n s) := by
  fun_induction delimiters n s with
  | case1 n => exact ⟨by simp, .nil, fun u d v h => by simp [d.text_ne_nil] at h⟩
  | case2 n s ih => exact ih.delimiter true fun d => le_offset
  | case3 n s ih => exact ih.delimiter false fun d => le_offset
  | case4 n c s hopen hclose ih => exact ih.plain (ne_text_append hopen hclose)

/-- There is one way to find delimiters. -/
theorem Found.eq_delimiters {n : Nat} {s : List Char} {ds : List Delimiter} (h : Found n s ds) :
    ds = delimiters n s := by
  fun_induction delimiters n s generalizing ds with
  | case1 n =>
      apply List.eq_nil_iff_forall_not_mem.mpr
      intro d hd
      obtain ⟨u, v, huv, -⟩ := h.stands d hd
      simp [d.text_ne_nil] at huv
  | case2 n s ih =>
      obtain ⟨rest, rfl, hrest⟩ := Found.of_delimiter true h
      rw [ih hrest]
  | case3 n s ih =>
      obtain ⟨rest, rfl, hrest⟩ := Found.of_delimiter false h
      rw [ih hrest]
  | case4 n c s hopen hclose ih => exact ih (h.of_plain (ne_text_append hopen hclose))

end SqlGateway.Sql
