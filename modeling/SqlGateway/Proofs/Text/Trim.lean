import Mathlib.Data.List.DropRight
import SqlGateway.Text.Blank

/-!
# Trimmed texts

A trimmed text is a part of the text that has no white space at its ends, and a text without white
space at its ends is trimmed. White space that is put around such a text is trimmed off again.
-/

namespace SqlGateway.Text

theorem isInfix_trim (s : List Char) : trim s <:+: s :=
  ((List.rdropWhile_prefix isBlank _).isInfix).trans (List.dropWhile_suffix isBlank).isInfix

theorem head_trim {s : List Char} {c : Char} (h : c ∈ (trim s).head?) : isBlank c = false := by
  obtain ⟨t, ht⟩ := List.head?_eq_some_iff.mp h
  obtain ⟨u, hu⟩ := List.rdropWhile_prefix isBlank (trimStart s)
  have hstart : trimStart s = c :: (t ++ u) := by
    rw [← hu]
    exact congrArg (· ++ u) ht
  have := List.head?_dropWhile_not isBlank s
  rwa [show s.dropWhile isBlank = c :: (t ++ u) from hstart] at this

theorem getLast_trim {s : List Char} {c : Char} (h : c ∈ (trim s).getLast?) :
    isBlank c = false := by
  obtain ⟨hne, rfl⟩ := List.mem_getLast?_eq_getLast h
  exact Bool.eq_false_iff.mpr (List.rdropWhile_last_not isBlank (trimStart s) hne)

theorem trim_of_ends {s : List Char} (hfirst : ∀ c ∈ s.head?, isBlank c = false)
    (hlast : ∀ c ∈ s.getLast?, isBlank c = false) : trim s = s := by
  have hstart : trimStart s = s := by
    cases s with
    | nil => rfl
    | cons c s => simp [trimStart, hfirst c rfl]
  rw [trim, hstart]
  apply List.rdropWhile_eq_self_iff.mpr
  intro hne
  simp [hlast _ (List.getLast?_eq_some_getLast hne)]

theorem trimEnd_append_blank (s : List Char) {b : List Char}
    (hb : ∀ c ∈ b, isBlank c = true) : trimEnd (s ++ b) = trimEnd s := by
  have hrev : ∀ c ∈ b.reverse, isBlank c = true := fun c hc => hb c (List.mem_reverse.mp hc)
  rw [trimEnd, List.reverse_append, List.dropWhile_append_of_pos hrev, trimEnd]

/-- The text `t` is `s` with any white space around it. -/
def Surrounds (t s : List Char) : Prop :=
  ∃ a b, blank a = true ∧ blank b = true ∧ t = a ++ s ++ b

theorem Surrounds.trim {t s : List Char} (h : Surrounds t s)
    (hfirst : ∀ c ∈ s.head?, isBlank c = false) (hlast : ∀ c ∈ s.getLast?, isBlank c = false) :
    trim t = s := by
  obtain ⟨a, b, ha, hb, rfl⟩ := h
  have ha : ∀ c ∈ a, isBlank c = true := List.all_eq_true.mp ha
  have hb : ∀ c ∈ b, isBlank c = true := List.all_eq_true.mp hb
  have hfront : trimStart (a ++ s ++ b) = trimStart (s ++ b) := by
    rw [List.append_assoc, trimStart, List.dropWhile_append_of_pos ha, trimStart]
  rw [Text.trim, hfront]
  cases s with
  | nil =>
      rw [List.nil_append, trimStart, List.dropWhile_eq_nil_iff.mpr hb]
      rfl
  | cons c s =>
      have hkept (r : List Char) : trimStart (c :: r) = c :: r := by simp [trimStart, hfirst c rfl]
      have hself := trim_of_ends hfirst hlast
      rw [Text.trim, hkept] at hself
      rw [List.cons_append, hkept, ← List.cons_append, trimEnd_append_blank _ hb, hself]

theorem Surrounds.trim_solid {t s : List Char} (h : Surrounds t s)
    (hs : ∀ c ∈ s, isBlank c = false) : Text.trim t = s :=
  h.trim (fun c hc => hs c (List.mem_of_mem_head? hc))
    fun c hc => hs c (List.mem_of_mem_getLast? hc)

theorem trim_eq_nil_iff {s : List Char} : trim s = [] ↔ blank s = true := by
  rw [blank, List.all_eq_true]
  apply List.rdropWhile_eq_nil_iff.trans
  constructor
  · intro h c hc
    rw [← List.takeWhile_append_dropWhile (p := isBlank) (l := s)] at hc
    rcases List.mem_append.mp hc with hc | hc
    · exact List.mem_takeWhile_imp hc
    · exact h c hc
  · intro h c hc
    exact h c ((List.dropWhile_suffix isBlank).subset hc)

end SqlGateway.Text
