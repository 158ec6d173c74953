import SqlGateway.Text.Basic
import SqlGateway.Text.Blank
import SqlGateway.Text.LowerCase
import SqlGateway.Text.Word

/-!
# Words in lower-case texts

Lower-casing a text does more than make the letters A to Z small: it changes characters of other
scripts, and of two of them it makes letters from a to z. A word that none of these letters can be
taken for is found in the lower-case form of a text exactly where it stands in the text, in small or
capital letters.
-/

namespace SqlGateway.Text

variable {c d : Char} {s t word : List Char}

/-! ## Letters -/

theorem forall_ascii {p : Char → Bool} (h : ((List.range 128).all fun n => p (Char.ofNat n)) = true)
    (hc : c.toNat < 128) : p c = true := by
  rw [← Char.ofNat_toNat c]
  exact List.all_eq_true.mp h c.toNat (List.mem_range.mpr hc)

theorem toLower_of_not_ascii (h : 128 ≤ c.toNat) : c.toLower = c := by
  have hupper : ¬ (c.val ≥ 'A'.val ∧ c.val ≤ 'Z'.val) := by
    rintro ⟨-, hle⟩
    have hle : c.toNat ≤ 90 := hle
    omega
  exact dif_neg hupper

theorem ascii_of_isLower (h : c.isLower = true) : c.toNat < 128 := by
  have hle : c.toNat ≤ 122 := of_decide_eq_true (Bool.and_eq_true_iff.mp h).2
  omega

theorem ascii_of_isLower_toLower (h : c.toLower.isLower = true) : c.toNat < 128 := by
  refine Nat.lt_of_not_le fun hc => ?_
  rw [toLower_of_not_ascii hc] at h
  exact absurd (ascii_of_isLower h) (Nat.not_lt.mpr hc)

/-- A test that takes no notice of the case of a letter from A to Z. -/
def IgnoresCase (p : Char → Bool) : Prop :=
  ∀ c, p c.toLower = p c

theorem ignoresCase_of_ascii {p : Char → Bool}
    (h : ((List.range 128).all fun n => p (Char.ofNat n).toLower == p (Char.ofNat n)) = true) :
    IgnoresCase p := by
  intro c
  by_cases hc : c.toNat < 128
  · exact beq_iff_eq.mp (forall_ascii (p := fun c => p c.toLower == p c) h hc)
  · rw [toLower_of_not_ascii (Nat.le_of_not_lt hc)]

theorem ignoresCase_isBlank : IgnoresCase isBlank :=
  ignoresCase_of_ascii (p := isBlank) (by decide +kernel)

theorem ignoresCase_isWord : IgnoresCase isWord :=
  ignoresCase_of_ascii (p := isWord) (by decide +kernel)

theorem ignoresCase_isAlpha : IgnoresCase Char.isAlpha :=
  ignoresCase_of_ascii (p := Char.isAlpha) (by decide +kernel)

theorem toLower_of_not_isAlpha (h : c.isAlpha = false) : c.toLower = c := by
  by_cases hc : c.toNat < 128
  · have hsame := forall_ascii (p := fun c => c.isAlpha || c.toLower == c) (by decide +kernel) hc
    simpa [h] using hsame
  · exact toLower_of_not_ascii (Nat.le_of_not_lt hc)

theorem eq_of_toLower_eq (hd : d.isAlpha = false) (h : c.toLower = d.toLower) : c = d := by
  have hc : c.isAlpha = false := by
    rw [← ignoresCase_isAlpha c, h, ignoresCase_isAlpha d, hd]
  rwa [toLower_of_not_isAlpha hc, toLower_of_not_isAlpha hd] at h

/-! ## Lower-case forms of characters -/

theorem lowerChar_of_ascii (h : c.toNat < 128) : lowerChar c = [c.toLower] :=
  beq_iff_eq.mp (forall_ascii (p := fun c => lowerChar c == [c.toLower]) (by decide +kernel) h)

/-- Only the Kelvin sign has a single ASCII character, the letter k, as its form from elsewhere. -/
theorem caseRuns_beyond_ascii : ∀ r ∈ caseRuns, 128 ≤ r.last →
    128 ≤ r.first + r.shift ∨ r.first = r.last ∧ r.first + r.shift = 'k'.toNat := by
  decide +kernel

theorem isLower_ofNat {n : Nat} (h : 128 ≤ n) : (Char.ofNat n).isLower = false := by
  refine Bool.eq_false_iff.mpr fun hlower => ?_
  by_cases hn : n.isValidChar
  · have hnat : (Char.ofNat n).toNat = n := by
      rw [Char.ofNat, dif_pos hn]
      rfl
    have hascii := ascii_of_isLower hlower
    omega
  · rw [Char.ofNat, dif_neg hn] at hlower
    exact absurd hlower (by decide)

/-- From elsewhere come the two characters for the capital I with a dot above, the letter k for the
Kelvin sign, and no other letter from a to z. -/
theorem lowerChar_of_not_ascii (hc : 128 ≤ c.toNat) : lowerChar c = ['i', '\u0307'] ∨
    ∃ d, lowerChar c = [d] ∧ (d = 'k' ∨ d.isLower = false) := by
  unfold lowerChar
  split
  · exact .inl rfl
  · refine .inr ?_
    split
    · rename_i r hr
      have hcovers := List.find?_some hr
      simp only [CaseRun.covers, Bool.and_eq_true, decide_eq_true_eq] at hcovers
      refine ⟨_, rfl, ?_⟩
      rcases caseRuns_beyond_ascii r (List.mem_of_find?_eq_some hr) (by omega) with h | ⟨hone, h⟩
      · exact .inr (isLower_ofNat (by omega))
      · have hk : (c.toNat + r.shift).toNat = 'k'.toNat := by omega
        exact .inl (by rw [hk]; rfl)
    · refine ⟨c, rfl, .inr (Bool.eq_false_iff.mpr fun hlower => ?_)⟩
      exact absurd (ascii_of_isLower hlower) (Nat.not_lt.mpr hc)

/-! ## Words -/

theorem occurs_iff : occurs word s = true ↔ word <:+: s := by
  induction s with
  | nil => simp [occurs]
  | cons c s ih =>
      unfold occurs
      rw [Bool.or_eq_true, List.isPrefixOf_iff_prefix, ih, List.infix_cons_iff]

/-- A word of small letters that are not taken for others: the letter k is also the form of the
Kelvin sign, and the letter i begins that of the capital I with a dot above. -/
structure Unmistakable (word : List Char) : Prop where
  isLower : ∀ c ∈ word, c.isLower = true
  no_k : 'k' ∉ word
  last : word.getLast? ≠ some 'i'

instance (word : List Char) : Decidable (Unmistakable word) :=
  have : Decidable (∀ c ∈ word, c.isLower = true) := List.decidableBAll _ word
  decidable_of_iff ((∀ c ∈ word, c.isLower = true) ∧ 'k' ∉ word ∧ word.getLast? ≠ some 'i')
    ⟨fun ⟨h, hk, hi⟩ => ⟨h, hk, hi⟩, fun ⟨h, hk, hi⟩ => ⟨h, hk, hi⟩⟩

theorem Unmistakable.tail (h : Unmistakable (c :: word)) : Unmistakable word := by
  refine ⟨fun d hd => h.isLower d (List.mem_cons_of_mem _ hd),
    fun hk => h.no_k (List.mem_cons_of_mem _ hk), fun hi => ?_⟩
  cases word with
  | nil => cases hi
  | cons d word => exact h.last (by rwa [List.getLast?_cons_cons])

/-- A lower-case form of a text. A capital sigma at the end of a word has a form of its own there;
which sigmas stand at an end is left open. -/
inductive Lowered : List Char → List Char → Prop
  | nil : Lowered [] []
  | cons (c : Char) {s t : List Char} (h : Lowered s t) : Lowered (c :: s) (lowerChar c ++ t)
  | finalSigma {s t : List Char} (h : Lowered s t) : Lowered ('Σ' :: s) ('ς' :: t)

theorem lowered_lower (s : List Char) : Lowered s (lower s) := by
  induction s with
  | nil => exact .nil
  | cons c s ih => exact .cons c ih

theorem Unmistakable.eq_nil_of_prefix (hword : Unmistakable word) (hd : d.isLower = false)
    (h : word <+: d :: t) : word = [] := by
  cases word with
  | nil => rfl
  | cons c word =>
      obtain ⟨rfl, -⟩ := List.cons_prefix_cons.mp h
      have hlower := hword.isLower c List.mem_cons_self
      rw [hd] at hlower
      cases hlower

/-- No word begins with the form of a character from elsewhere. -/
theorem Unmistakable.not_prefix (hword : Unmistakable (c :: word)) (hd : 128 ≤ d.toNat) :
    ¬ c :: word <+: lowerChar d ++ t := by
  intro h
  rcases lowerChar_of_not_ascii hd with hd | ⟨e, hd, rfl | he⟩
  · rw [hd] at h
    obtain ⟨rfl, hrest⟩ := List.cons_prefix_cons.mp h
    obtain rfl := hword.tail.eq_nil_of_prefix (by decide) hrest
    exact hword.last rfl
  · rw [hd] at h
    obtain ⟨rfl, -⟩ := List.cons_prefix_cons.mp h
    exact hword.no_k List.mem_cons_self
  · rw [hd] at h
    cases hword.eq_nil_of_prefix he h

theorem Lowered.prefix_iff (h : Lowered s t) (hword : Unmistakable word) :
    word <+: t ↔ word <+: foldAscii s := by
  induction h generalizing word with
  | nil => rfl
  | @cons c s t h ih =>
      cases word with
      | nil => simp
      | cons d word =>
          have hfold : d :: word <+: foldAscii (c :: s) ↔ d = c.toLower ∧ word <+: t := by
            rw [ih hword.tail]
            exact List.cons_prefix_cons
          rw [hfold]
          rcases Nat.lt_or_ge c.toNat 128 with hc | hc
          · rw [lowerChar_of_ascii hc]
            exact List.cons_prefix_cons
          · refine iff_of_false (hword.not_prefix hc) ?_
            rintro ⟨rfl, -⟩
            have hascii := ascii_of_isLower_toLower (hword.isLower _ List.mem_cons_self)
            omega
  | finalSigma h ih =>
      constructor
      all_goals
        intro h
        rw [hword.eq_nil_of_prefix (by decide) h]
        exact List.nil_prefix

/-- Lower-casing neither makes nor hides a word. -/
theorem Lowered.infix_iff (h : Lowered s t) (hword : Unmistakable word) :
    word <:+: t ↔ word <:+: foldAscii s := by
  induction h with
  | nil => rfl
  | @cons c s t h ih =>
      have hprefix := (h.cons c).prefix_iff hword
      have hfold : word <:+: foldAscii (c :: s) ↔ word <+: lowerChar c ++ t ∨ word <:+: t := by
        rw [ih, hprefix]
        exact List.infix_cons_iff
      rw [hfold]
      rcases Nat.lt_or_ge c.toNat 128 with hc | hc
      · rw [lowerChar_of_ascii hc]
        exact List.infix_cons_iff
      · rcases lowerChar_of_not_ascii hc with hc | ⟨d, hc, -⟩
        · rw [hc]
          -- nothing begins between the two characters
          refine List.infix_cons_iff.trans (or_congr_right (List.infix_cons_iff.trans ?_))
          refine or_iff_right_of_imp fun h => ?_
          rw [hword.eq_nil_of_prefix (by decide) h]
          exact List.nil_infix
        · rw [hc]
          exact List.infix_cons_iff
  | @finalSigma s t h ih =>
      have hprefix := h.finalSigma.prefix_iff hword
      have hfold : word <:+: foldAscii ('Σ' :: s) ↔ word <+: 'ς' :: t ∨ word <:+: t := by
        rw [ih, hprefix]
        exact List.infix_cons_iff
      rw [hfold]
      exact List.infix_cons_iff

end SqlGateway.Text
