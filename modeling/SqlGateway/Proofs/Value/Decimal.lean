import SqlGateway.Proofs.Number.Numeral
import SqlGateway.Value.Conversion

/-!
# Decimals read from texts

A text is read as a decimal if it is a number up to white space around it, and the decimal is what
is left without the white space. Not all of these are numerals: the names of the infinities and of
what is no number pass as decimals too.
-/

namespace SqlGateway.Value

open Number Text

theorem toDecimal_of_accepted {s : String}
    (h : DecimalNumeral (trimmed s).toList ∨ SpecialName (trimmed s).toList) :
    (Value.text s).toDecimal = .ok (some (trimmed s)) := by
  rw [trimmed, String.toList_ofList, ← read?_isSome_iff] at h
  obtain ⟨n, hn⟩ := Option.isSome_iff_exists.mp h
  simp [toDecimal, hn, orMismatch, trimmed]

theorem toDecimal_of_refused {s : String}
    (h : ¬ (DecimalNumeral (trimmed s).toList ∨ SpecialName (trimmed s).toList)) :
    (Value.text s).toDecimal = .error ((Value.text s).mismatch "decimal") := by
  rw [trimmed, String.toList_ofList, ← read?_isSome_iff, Option.not_isSome_iff_eq_none] at h
  simp [toDecimal, h, orMismatch]

/-- A text gives a decimal if it is a numeral or a special name, which has no digit, and is refused
otherwise. -/
theorem toDecimal_text (s : String) :
    (∀ d, (Value.text s).toDecimal = .ok (some d) ↔
      d = trimmed s ∧ (DecimalNumeral d.toList ∨ SpecialName d.toList)) ∧
    (∀ f, (Value.text s).toDecimal = .error f ↔
      f = (Value.text s).mismatch "decimal" ∧
        ¬ (DecimalNumeral (trimmed s).toList ∨ SpecialName (trimmed s).toList)) ∧
    (Value.text s).toDecimal ≠ .ok none ∧
    ∀ d, ¬ (DecimalNumeral d ∧ SpecialName d) := by
  have hapart : ∀ d, ¬ (DecimalNumeral d ∧ SpecialName d) := fun d h => h.2.not_decimalNumeral h.1
  by_cases h : DecimalNumeral (trimmed s).toList ∨ SpecialName (trimmed s).toList
  · rw [toDecimal_of_accepted h]
    refine ⟨fun d => ?_, fun f => ⟨nofun, fun hf => absurd h hf.2⟩, nofun, hapart⟩
    constructor
    · rintro ⟨⟩
      exact ⟨rfl, h⟩
    · rintro ⟨rfl, -⟩
      rfl
  · rw [toDecimal_of_refused h]
    refine ⟨fun d => ⟨nofun, ?_⟩, fun f => ?_, nofun, hapart⟩
    · rintro ⟨rfl, hd⟩
      exact absurd hd h
    · constructor
      · rintro ⟨⟩
        exact ⟨rfl, h⟩
      · rintro ⟨rfl, -⟩
        rfl

/-- Infinity is read as a decimal, and is no numeral. -/
theorem infinity_taken_for_decimal :
    (Value.text "inf").toDecimal = .ok (some "inf") ∧ ¬ DecimalNumeral "inf".toList := by
  have hname : SpecialName "inf".toList := .intro .absent (by decide)
  exact ⟨by decide, hname.not_decimalNumeral⟩

end SqlGateway.Value
