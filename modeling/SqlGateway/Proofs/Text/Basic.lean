import Mathlib.Data.List.TakeWhile

/-!
# Runs of characters, and texts as bytes

A run of characters of one kind is cut off from the front of a text where it ends: at a character of
another kind or at the end of the text. The UTF-8 bytes of a text are read as the text, and no other
bytes are.
-/

namespace SqlGateway.Text

variable {p : Char → Bool} {run rest : List Char} {c : Char}

/-- The text goes on with a character of another kind, or not at all. -/
def Stops (p : Char → Bool) (rest : List Char) : Prop :=
  ∀ c ∈ rest.head?, p c = false

namespace Stops

theorem nil : Stops p [] :=
  nofun

theorem cons (h : p c = false) : Stops p (c :: rest) := by
  rintro d ⟨⟩
  exact h

theorem take (h : Stops p rest) (k : Nat) : Stops p (rest.take k) := by
  cases k with
  | zero => exact nil
  | succ k =>
      cases rest with
      | nil => exact nil
      | cons c rest => exact cons (h c rfl)

theorem takeWhile_append (h : Stops p rest) (hrun : ∀ c ∈ run, p c = true) :
    (run ++ rest).takeWhile p = run := by
  have hnone : rest.takeWhile p = [] := by
    cases rest with
    | nil => rfl
    | cons c rest => simp [h c rfl]
  rw [List.takeWhile_append_of_pos hrun, hnone, List.append_nil]

theorem dropWhile_append (h : Stops p rest) (hrun : ∀ c ∈ run, p c = true) :
    (run ++ rest).dropWhile p = rest := by
  have hall : rest.dropWhile p = rest := by
    cases rest with
    | nil => rfl
    | cons c rest => simp [h c rfl]
  rw [List.dropWhile_append_of_pos hrun, hall]

end Stops

/-! ## Texts as bytes -/

theorem fromUTF8?_toUTF8 (s : String) : String.fromUTF8? s.toUTF8 = some s := by
  rw [String.fromUTF8?, String.toUTF8_eq_toByteArray, dif_pos s.isValidUTF8]
  rfl

theorem eq_toUTF8_of_fromUTF8? {content : ByteArray} {s : String}
    (h : String.fromUTF8? content = some s) : content = s.toUTF8 := by
  unfold String.fromUTF8? at h
  split at h
  · cases h
    rfl
  · cases h

end SqlGateway.Text
