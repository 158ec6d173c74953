import SqlGateway.Proofs.Sql.Normal

/-!
# Which texts are refused

A text is prepared exactly if its block comments open and close in turn and something stands
outside them. A text that is refused gets the first error that applies to it: nothing was given, the
counts of the delimiters differ, a delimiter is out of turn, nothing is left.
-/

namespace SqlGateway.Sql

open Text

theorem cleaned_ne_nil_iff {raw : List Char}
    (h : Alternate (delimiters 0 (withoutLineComments raw))) :
    cleaned raw ≠ [] ↔ Shows 0 (comments (delimiters 0 (withoutLineComments raw)))
      (withoutLineComments raw) := by
  have hscan := (scan_delimiters 0 (withoutLineComments raw)).1 h
  rw [hscan.shows_iff, cleaned, ne_eq, trim_eq_nil_iff, blank_collapse]
  simp [blank]

/-- A text is refused as malformed, in these words. -/
def Refused (raw text : String) : Prop :=
  ∃ reason, normalize raw = .error (.malformed reason) ∧ reason.message = text

theorem refused_of_error {raw : String} {reason : Malformed}
    (h : normalForm raw.toList = .error reason) : Refused raw reason.message :=
  ⟨reason, by rw [normalize, h], rfl⟩

/-- What becomes of a text, where `t` is the text without line comments and `ds` are the delimiters
of block comments in it. -/
structure Diagnosed (raw : String) (t : List Char) (ds : List Delimiter) : Prop where
  lines : t = ['\n'].intercalate ((raw.toList.splitOn '\n').map cutLine)
  found : Found 0 t ds
  unique : ∀ es, Found 0 t es → es = ds
  accepted : (∃ clean, normalize raw = .ok clean) ↔
    blank raw.toList = false ∧ Alternate ds ∧ Shows 0 (comments ds) t
  missing : blank raw.toList = true → Refused raw "SQL query must be provided"
  count : blank raw.toList = false → opened ds ≠ closed ds → Refused raw
    s!"Multiline comments open/close tags count mismatch ({opened ds} opened, {closed ds} closed)"
  turns : blank raw.toList = false → opened ds = closed ds → ¬ Alternate ds →
    (∃ d, Breaks d ds) ∧ ∀ d, Breaks d ds → Refused raw
      (if d.opens then s!"Nested multiline comment at {d.offset}"
      else s!"Unmatched end of multiline comment at {d.offset}")
  onlyComments : blank raw.toList = false → Alternate ds → ¬ Shows 0 (comments ds) t →
    Refused raw "SQL query contains nothing but comments"

theorem outOfTurn_message (d : Delimiter) : d.outOfTurn.message =
    if d.opens then s!"Nested multiline comment at {d.offset}"
    else s!"Unmatched end of multiline comment at {d.offset}" := by
  unfold Delimiter.outOfTurn
  split <;> rfl

/-- Every text is prepared or refused as its lines and the order of its delimiters say. -/
theorem normalize_diagnosed (raw : String) :
    Diagnosed raw (withoutLineComments raw.toList)
      (delimiters 0 (withoutLineComments raw.toList)) where
  lines := withoutLineComments_eq raw.toList
  found := found_delimiters 0 (withoutLineComments raw.toList)
  unique es hes := hes.eq_delimiters
  accepted := by
    constructor
    · rintro ⟨clean, h⟩
      obtain ⟨hblank, halt, hclean, hne⟩ := normalForm_eq_ok_iff.mp (normalize_eq_ok_iff.mp h)
      exact ⟨hblank, halt, (cleaned_ne_nil_iff halt).mp (hclean ▸ hne)⟩
    · rintro ⟨hblank, halt, hshows⟩
      have h := normalForm_of_alternate hblank halt
      rw [if_neg ((cleaned_ne_nil_iff halt).mpr hshows)] at h
      exact ⟨.ofList (cleaned raw.toList), normalize_eq_ok_iff.mpr (by simpa using h)⟩
  missing hblank := refused_of_error (normalForm_of_blank hblank)
  count hblank hcount :=
    refused_of_error (normalForm_of_error hblank (commentSpans_of_count hcount))
  turns hblank hcount halt := by
    refine ⟨(alternate_or_breaks hcount).resolve_left halt, fun d hd => ?_⟩
    rw [← outOfTurn_message]
    exact refused_of_error (normalForm_of_error hblank (commentSpans_of_breaks hd hcount))
  onlyComments hblank halt hshows := by
    have h := normalForm_of_alternate hblank halt
    rw [if_pos (not_not.mp fun hne => hshows ((cleaned_ne_nil_iff halt).mp hne))] at h
    exact refused_of_error h

/-- Offsets are bytes of the text without line comments. -/
example : Refused "--/*\né*/ /*" "Unmatched end of multiline comment at 3" :=
  ⟨.unmatchedClose 3, rfl, rfl⟩

end SqlGateway.Sql
