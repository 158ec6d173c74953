import Mathlib.Algebra.GroupWithZero.Nat
import Mathlib.Data.List.Basic
import SqlGateway.Number.Integer
import SqlGateway.Proofs.Text.LowerCase

/-!
# Written digits

The digits of a number give the number back, with zeros in front or without. They begin with a zero
only where the number is zero.
-/

namespace SqlGateway.Number

open Text

def DigitRun (s : List Char) : Prop :=
  ∀ c ∈ s, c.isDigit = true

variable {c : Char} {n width : Nat} {ds : List Char}

/-! ## One digit -/

theorem digitValue_digitChar : ∀ d < 10, digitValue (digitChar d) = d := by
  decide

theorem isDigit_digitChar : ∀ d < 10, (digitChar d).isDigit = true := by
  decide

theorem digitChar_eq_zero : ∀ d < 10, digitChar d = '0' → d = 0 := by
  decide

theorem ascii_of_isDigit (h : c.isDigit = true) : c.toNat < 128 := by
  have hle : c.toNat ≤ 57 := of_decide_eq_true (Bool.and_eq_true_iff.mp h).2
  omega

theorem isBlank_of_isDigit (h : c.isDigit = true) : isBlank c = false := by
  have hascii := forall_ascii (p := fun c => !c.isDigit || !isBlank c) (by decide +kernel)
    (ascii_of_isDigit h)
  simpa [h] using hascii

theorem not_isAlpha_of_isDigit (h : c.isDigit = true) : c.isAlpha = false := by
  have hascii := forall_ascii (p := fun c => !c.isDigit || !c.isAlpha) (by decide +kernel)
    (ascii_of_isDigit h)
  simpa [h] using hascii

/-! ## Values -/

theorem digitsValue_concat (ds : List Char) (c : Char) :
    digitsValue (ds ++ [c]) = 10 * digitsValue ds + digitValue c := by
  simp [digitsValue]

theorem digitsValue_digits (n : Nat) : digitsValue (digits n) = n := by
  fun_induction digits n with
  | case1 n h => simp [digitsValue, digitValue_digitChar n h]
  | case2 n h ih =>
      rw [digitsValue_concat, ih, digitValue_digitChar _ (Nat.mod_lt n (by decide))]
      exact Nat.div_add_mod n 10

theorem digitsValue_zeros (k : Nat) (ds : List Char) :
    digitsValue (List.replicate k '0' ++ ds) = digitsValue ds := by
  induction k with
  | zero => rfl
  | succ k ih => exact ih

theorem digitsValue_paddedDigits (width n : Nat) : digitsValue (paddedDigits width n) = n := by
  rw [paddedDigits, digitsValue_zeros, digitsValue_digits]

/-! ## Shape -/

theorem digits_ne_nil (n : Nat) : digits n ≠ [] := by
  rw [digits]
  split <;> simp

theorem digitRun_digits (n : Nat) : DigitRun (digits n) := by
  fun_induction digits n with
  | case1 n h => exact List.forall_mem_singleton.mpr (isDigit_digitChar n h)
  | case2 n h ih =>
      have hlast := isDigit_digitChar _ (Nat.mod_lt n (by decide))
      exact List.forall_mem_append.mpr ⟨ih, List.forall_mem_singleton.mpr hlast⟩

theorem head_digits (h : n ≠ 0) : (digits n).head? ≠ some '0' := by
  fun_induction digits n with
  | case1 n hn => simpa using mt (digitChar_eq_zero n hn) h
  | case2 n hn ih =>
      rw [List.head?_append_of_ne_nil _ (digits_ne_nil _)]
      exact ih (by omega)

theorem length_digits_le {k : Nat} (hk : 0 < k) (h : n < 10 ^ k) : (digits n).length ≤ k := by
  fun_induction digits n generalizing k with
  | case1 n hn => exact hk
  | case2 n hn ih =>
      obtain ⟨k, rfl⟩ : ∃ j, k = j + 1 := ⟨k - 1, by omega⟩
      have hpos : 0 < k := by
        refine Nat.pos_of_ne_zero ?_
        rintro rfl
        omega
      have hshort := ih hpos (by rw [Nat.pow_succ] at h; omega)
      simpa using hshort

theorem paddedDigits_ne_nil (width n : Nat) : paddedDigits width n ≠ [] := by
  simp [paddedDigits, digits_ne_nil]

theorem digitRun_paddedDigits (width n : Nat) : DigitRun (paddedDigits width n) := by
  refine List.forall_mem_append.mpr ⟨fun c hc => ?_, digitRun_digits n⟩
  rw [List.eq_of_mem_replicate hc]
  decide

theorem length_paddedDigits_le (hwidth : 0 < width) (h : n < 10 ^ width) :
    (paddedDigits width n).length ≤ width := by
  have hshort := length_digits_le hwidth h
  simp only [paddedDigits, List.length_append, List.length_replicate]
  omega

/-! ## Integers -/

theorem toInt64?_toInt (i : Int64) : toInt64? i.toInt = some i := by
  have hmin : Int64.minValue.toInt ≤ i.toInt := Int64.minValue_le_toInt i
  have hmax : i.toInt ≤ Int64.maxValue.toInt := Int64.toInt_le i
  simp only [toInt64?, hmin, hmax, decide_true, Bool.and_self, if_true, Int64.ofInt_toInt]

theorem readNatural?_digits (n : Nat) : readNatural? (digits n) = some n := by
  have hall : (digits n).all Char.isDigit = true := List.all_eq_true.mpr (digitRun_digits n)
  simp [readNatural?, hall, digits_ne_nil, digitsValue_digits]

theorem readInteger?_of_digit (h : c.isDigit = true) :
    readInteger? (c :: ds) = (readNatural? (c :: ds)).bind fun n => toInt64? n := by
  rw [readInteger?]
  · rfl
  · rintro s ⟨⟩
    simp at h
  · rintro s ⟨⟩
    simp at h

theorem readInteger?_integerText (i : Int64) : readInteger? (integerText i) = some i := by
  rw [integerText]
  split
  · have hvalue : -(i.toInt.natAbs : Int) = i.toInt := by omega
    rw [readInteger?, readNatural?_digits]
    exact (congrArg toInt64? hvalue).trans (toInt64?_toInt i)
  · obtain ⟨c, ds, hds⟩ := List.exists_cons_of_ne_nil (digits_ne_nil i.toInt.natAbs)
    have hc : c.isDigit = true := digitRun_digits i.toInt.natAbs c (by simp [hds])
    have hvalue : (i.toInt.natAbs : Int) = i.toInt := by omega
    rw [hds, readInteger?_of_digit hc, ← hds, readNatural?_digits, Option.bind_some, hvalue,
      toInt64?_toInt]

theorem isBlank_integerText (i : Int64) : ∀ c ∈ integerText i, isBlank c = false := by
  have hdigits : ∀ c ∈ digits i.toInt.natAbs, isBlank c = false :=
    fun c hc => isBlank_of_isDigit (digitRun_digits _ c hc)
  rw [integerText]
  split
  · exact List.forall_mem_cons.mpr ⟨by decide, hdigits⟩
  · exact hdigits

end SqlGateway.Number
