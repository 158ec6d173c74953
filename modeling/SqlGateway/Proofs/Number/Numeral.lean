import SqlGateway.Number.Numeral
import SqlGateway.Proofs.Number.Digits
import SqlGateway.Proofs.Text.Basic

/-!
# The grammar of numbers

The texts that are read as numbers, as a grammar: the numerals, which stand for finite numbers, and
the names of the others, which have no digits.
-/

namespace SqlGateway.Number

open Numeral Text

/-! ## Grammar -/

inductive Sign : List Char → Prop
  | absent : Sign []
  | plus : Sign ['+']
  | minus : Sign ['-']

/-- Digits with a point before, among or after them, or without one. -/
inductive Significand : List Char → Prop
  | whole {ds : List Char} (hds : DigitRun ds) (hne : ds ≠ []) : Significand ds
  | pointed {ds es : List Char} (hds : DigitRun ds) (hes : DigitRun es) (hne : ds ++ es ≠ []) :
      Significand (ds ++ '.' :: es)

inductive Exponent : List Char → Prop
  | absent : Exponent []
  | present {e : Char} {sign ds : List Char} (he : e = 'e' ∨ e = 'E') (hsign : Sign sign)
      (hds : DigitRun ds) (hne : ds ≠ []) : Exponent (e :: (sign ++ ds))

/-- A decimal numeral: an optional sign, digits with an optional point, an optional exponent. -/
inductive DecimalNumeral : List Char → Prop
  | intro {sign significand exponent : List Char} (hsign : Sign sign)
      (hsignificand : Significand significand) (hexponent : Exponent exponent) :
      DecimalNumeral (sign ++ (significand ++ exponent))

def specialNames : List (List Char) :=
  ["inf".toList, "infinity".toList, "nan".toList]

/-- The name of an infinity or of a number that is none, its letters small or capital. -/
inductive SpecialName : List Char → Prop
  | intro {sign name : List Char} (hsign : Sign sign) (hname : foldAscii name ∈ specialNames) :
      SpecialName (sign ++ name)

variable {s sign ds x : List Char} {negative : Bool}

/-! ## Signs -/

def Unsigned (s : List Char) : Prop :=
  ∀ c ∈ s.head?, c ≠ '+' ∧ c ≠ '-'

theorem Unsigned.of_digits (hds : DigitRun ds) : Unsigned ds := by
  intro c hc
  have hdigit := hds c (List.mem_of_mem_head? hc)
  constructor <;> (rintro rfl; simp at hdigit)

theorem readSign_append (hsign : Sign sign) (hs : Unsigned s) : (readSign (sign ++ s)).2 = s := by
  cases hsign with
  | absent =>
      cases s with
      | nil => rfl
      | cons c s =>
          obtain ⟨hplus, hminus⟩ := hs c rfl
          rw [List.nil_append, readSign]
          · simpa using hminus
          · simpa using hplus
  | plus => rfl
  | minus => rfl

theorem exists_sign (s : List Char) : ∃ sign, Sign sign ∧ s = sign ++ (readSign s).2 := by
  unfold readSign
  split
  · exact ⟨_, .minus, rfl⟩
  · exact ⟨_, .plus, rfl⟩
  · exact ⟨_, .absent, rfl⟩

/-! ## Exponents -/

theorem digitRun_iff : ds.all Char.isDigit = true ↔ DigitRun ds :=
  List.all_eq_true

theorem readExponent?_isSome_iff : (readExponent? s).isSome = true ↔ Exponent s := by
  constructor
  · intro h
    cases s with
    | nil => exact .absent
    | cons e s =>
        simp only [readExponent?, Option.isSome_ite, Bool.and_eq_true, Bool.or_eq_true, beq_iff_eq,
          digitRun_iff, Bool.not_eq_true', List.isEmpty_eq_false_iff] at h
        obtain ⟨sign, hsign, hs⟩ := exists_sign s
        rw [hs]
        exact .present h.1.1 hsign h.2 h.1.2
  · intro h
    cases h with
    | absent => rfl
    | present he hsign hds hne =>
        simp [readExponent?, readSign_append hsign (Unsigned.of_digits hds), he,
          digitRun_iff.mpr hds, hne]

theorem Exponent.head (h : Exponent x) : ∀ c ∈ x.head?, c.isDigit = false ∧ c ≠ '.' := by
  cases h with
  | absent => exact nofun
  | present he => rcases he with rfl | rfl <;> rintro _ ⟨⟩ <;> decide

/-! ## Digits -/

theorem digitRun_takeWhile (s : List Char) : DigitRun (s.takeWhile Char.isDigit) :=
  fun _ hc => List.mem_takeWhile_imp hc

theorem readDigits?_pointed {r : List Char} (h : s.dropWhile Char.isDigit = '.' :: r) :
    (readDigits? negative s).isSome = true ↔
      s.takeWhile Char.isDigit ++ r.takeWhile Char.isDigit ≠ [] ∧
        Exponent (r.dropWhile Char.isDigit) := by
  rw [← readExponent?_isSome_iff]
  simp only [readDigits?, h]
  cases s.takeWhile Char.isDigit <;> cases r.takeWhile Char.isDigit <;> simp

theorem readDigits?_whole (h : ∀ r, s.dropWhile Char.isDigit ≠ '.' :: r) :
    (readDigits? negative s).isSome = true ↔
      s.takeWhile Char.isDigit ≠ [] ∧ Exponent (s.dropWhile Char.isDigit) := by
  rw [← readExponent?_isSome_iff]
  unfold readDigits?
  generalize s.takeWhile Char.isDigit = whole
  generalize s.dropWhile Char.isDigit = rest at h ⊢
  dsimp only
  split
  · exact absurd rfl (h _)
  · cases whole <;> simp

theorem readDigits?_isSome_iff : (readDigits? negative s).isSome = true ↔
    ∃ significand exponent, Significand significand ∧ Exponent exponent ∧
      s = significand ++ exponent := by
  constructor
  · intro h
    have hsplit := List.takeWhile_append_dropWhile (p := Char.isDigit) (l := s)
    by_cases hpoint : ∃ r, s.dropWhile Char.isDigit = '.' :: r
    · obtain ⟨r, hr⟩ := hpoint
      obtain ⟨hne, hexponent⟩ := (readDigits?_pointed hr).mp h
      refine ⟨_, _, .pointed (digitRun_takeWhile s) (digitRun_takeWhile r) hne, hexponent, ?_⟩
      rw [List.append_assoc, List.cons_append, List.takeWhile_append_dropWhile, ← hr, hsplit]
    · obtain ⟨hne, hexponent⟩ := (readDigits?_whole (not_exists.mp hpoint)).mp h
      exact ⟨_, _, .whole (digitRun_takeWhile s) hne, hexponent, hsplit.symm⟩
  · rintro ⟨_, x, hsignificand, hexponent, rfl⟩
    have hstops : Stops Char.isDigit x := fun c hc => (hexponent.head c hc).1
    cases hsignificand with
    | whole hds hne =>
        have hdrop := hstops.dropWhile_append hds
        refine (readDigits?_whole fun r hr => ?_).mpr ?_
        · exact (hexponent.head '.' (by rw [← hdrop, hr]; rfl)).2 rfl
        · rw [hstops.takeWhile_append hds, hdrop]
          exact ⟨hne, hexponent⟩
    | @pointed ds es hds hes hne =>
        have hpoint : Stops Char.isDigit ('.' :: (es ++ x)) := .cons (by decide)
        rw [List.append_assoc, List.cons_append, readDigits?_pointed (hpoint.dropWhile_append hds),
          hpoint.takeWhile_append hds, hstops.takeWhile_append hes, hstops.dropWhile_append hes]
        exact ⟨hne, hexponent⟩

/-! ## Numbers -/

theorem readWord?_isSome_iff :
    (readWord? negative s).isSome = true ↔ foldAscii s ∈ specialNames := by
  simp only [readWord?, specialNames, foldAscii, List.mem_cons, List.not_mem_nil, or_false,
    Bool.or_eq_true, decide_eq_true_eq, ← or_assoc]
  split
  · rename_i h
    exact iff_of_true rfl (.inl h)
  · rename_i h
    rw [or_iff_right h]
    split <;> rename_i h
    · exact iff_of_true rfl h
    · exact iff_of_false nofun h

theorem isAlpha_of_special (h : foldAscii s ∈ specialNames) : ∀ c ∈ s, c.isAlpha = true := by
  have hnames : specialNames.all (·.all Char.isAlpha) = true := by decide
  have hname := List.all_eq_true.mp (List.all_eq_true.mp hnames _ h)
  intro c hc
  rw [← ignoresCase_isAlpha c]
  exact hname _ (List.mem_map_of_mem hc)

theorem Unsigned.of_special (h : foldAscii s ∈ specialNames) : Unsigned s := by
  intro c hc
  have halpha := isAlpha_of_special h c (List.mem_of_mem_head? hc)
  constructor <;> (rintro rfl; simp at halpha)

theorem Significand.unsigned {t : List Char} (h : Significand s) : Unsigned (s ++ t) := by
  cases h with
  | whole hds hne =>
      obtain ⟨c, ds, rfl⟩ := List.exists_cons_of_ne_nil hne
      have hfront : Unsigned (c :: ds) := .of_digits hds
      exact hfront
  | @pointed ds es hds hes hne =>
      cases ds with
      | nil =>
          rintro _ ⟨⟩
          decide
      | cons c ds =>
          have hfront : Unsigned (c :: ds) := .of_digits hds
          exact hfront

theorem read?_isSome_iff : (read? s).isSome = true ↔ DecimalNumeral s ∨ SpecialName s := by
  have hread : (read? s).isSome = true ↔
      (readDigits? (readSign s).1 (readSign s).2).isSome = true ∨
        (readWord? (readSign s).1 (readSign s).2).isSome = true := by
    unfold read?
    cases readSign s with
    | mk negative rest => cases h : readDigits? negative rest <;> simp [h]
  rw [hread, readDigits?_isSome_iff, readWord?_isSome_iff]
  constructor
  · obtain ⟨sign, hsign, hs⟩ := exists_sign s
    generalize (readSign s).2 = rest at hs
    subst hs
    rintro (⟨significand, exponent, hsignificand, hexponent, rfl⟩ | hname)
    · exact .inl (.intro hsign hsignificand hexponent)
    · exact .inr (.intro hsign hname)
  · rintro (h | h)
    · obtain ⟨hsign, hsignificand, hexponent⟩ := h
      rw [readSign_append hsign hsignificand.unsigned]
      exact .inl ⟨_, _, hsignificand, hexponent, rfl⟩
    · obtain ⟨hsign, hname⟩ := h
      rw [readSign_append hsign (Unsigned.of_special hname)]
      exact .inr hname

/-! ## Digits tell numerals from names -/

theorem DecimalNumeral.exists_digit (h : DecimalNumeral s) : ∃ c ∈ s, c.isDigit = true := by
  obtain ⟨hsign, hsignificand, hexponent⟩ := h
  cases hsignificand with
  | whole hds hne =>
      obtain ⟨c, hc⟩ := List.exists_mem_of_ne_nil _ hne
      exact ⟨c, by simp [hc], hds c hc⟩
  | pointed hds hes hne =>
      obtain ⟨c, hc⟩ := List.exists_mem_of_ne_nil _ hne
      rcases List.mem_append.mp hc with hc' | hc'
      · exact ⟨c, by simp [hc'], hds c hc'⟩
      · exact ⟨c, by simp [hc'], hes c hc'⟩

theorem SpecialName.no_digit (h : SpecialName s) : ∀ c ∈ s, c.isDigit = false := by
  obtain ⟨hsign, hname⟩ := h
  refine List.forall_mem_append.mpr ⟨?_, fun c hc => ?_⟩
  · cases hsign <;> simp
  · refine Bool.eq_false_iff.mpr fun hdigit => ?_
    have hnot := not_isAlpha_of_isDigit hdigit
    rw [isAlpha_of_special hname c hc] at hnot
    cases hnot

theorem SpecialName.not_decimalNumeral (h : SpecialName s) : ¬ DecimalNumeral s := by
  intro hnumeral
  obtain ⟨c, hc, hdigit⟩ := hnumeral.exists_digit
  rw [h.no_digit c hc] at hdigit
  cases hdigit

end SqlGateway.Number
