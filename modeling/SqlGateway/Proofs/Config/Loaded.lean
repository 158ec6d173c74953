import SqlGateway.Config.File
import SqlGateway.Proofs.Config.Given
import SqlGateway.Proofs.Json.Reader
import SqlGateway.Proofs.Text.Basic

/-!
# Loaded configurations

A file is loaded as a whole or not at all. What its text gives is set, in whatever order it stands
and whatever else is there, and what it leaves out has its default. Where anything is wrong,
everything has its default.
-/

namespace SqlGateway.Config

open Json

variable {c : Config} {given : List (Field × Json)} {place : Place} {s : String} {v : Json}

/-! ## What is left out -/

/-- The configuration with the given settings of `c` and the defaults of the others. -/
def restrict (c : Config) (fields : List Field) : Config :=
  fields.foldl (fun d field => field.copy c d) {}

theorem agrees_foldl_copy (field : Field) (c d : Config) (fields : List Field) :
    field.Agrees (fields.foldl (fun d field => field.copy c d) d)
      (if field ∈ fields then c else d) := by
  induction fields generalizing d with
  | nil => exact field.agrees_refl d
  | cons first fields ih =>
      have hrest := ih (first.copy c d)
      by_cases hfield : field ∈ fields
      · simpa [hfield] using hrest
      · rw [if_neg hfield] at hrest
        obtain rfl | hne := eq_or_ne field first
        · simpa using hrest.trans (field.agrees_copy_self c d)
        · simpa [hfield, hne] using hrest.trans (Field.agrees_copy_of_ne hne c d)

theorem ofJson?_of_gives (hlists : Lists v given) (hgives : Gives given c) :
    ofJson? v = some (c.restrict (given.map (·.1))) := by
  have hagrees (field : Field) := agrees_foldl_copy field c {} (given.map (·.1))
  refine ofJson?_eq_some_iff.mpr
    ⟨given, hlists, ⟨hgives.once, fun x hx => ?_⟩, fun field hfield => ?_⟩
  · have hself := hagrees x.1
    rw [if_pos (List.mem_map_of_mem hx)] at hself
    exact hself.holds_iff.mpr (hgives.holds x hx)
  · have hself := hagrees field
    rwa [if_neg hfield] at hself

/-! ## Files -/

theorem load_of_renders (hcontent : place.content = .bytes s.toUTF8)
    (hs : Renders s.toList v.tokens) : load place = (ofJson? v).getD {} := by
  simp only [load, hcontent, Text.fromUTF8?_toUTF8, Option.bind_some, read?,
    Json.read?_eq_some_iff.mpr hs]

theorem load_of_no_text
    (h : ∀ s v, place.content = .bytes (String.toUTF8 s) → ¬ Renders s.toList (Json.tokens v)) :
    load place = {} := by
  unfold load
  split
  · rename_i content hcontent
    cases hutf8 : String.fromUTF8? content with
    | none => rfl
    | some s =>
        cases hread : Json.read? s.toList with
        | none => simp [read?, hread]
        | some v =>
            rw [Text.eq_toUTF8_of_fromUTF8? hutf8] at hcontent
            exact absurd (Json.read?_eq_some_iff.mp hread) (h s v hcontent)
  · rfl
  · rfl

/-- A file whose text is one JSON value loads with the settings that the value gives, if it gives
each once and as a value of its kind, and with the defaults of the others. Where a setting is given
twice or as something else, the value gives no settings at all, or the file is no text of a value,
all that is loaded are the defaults. -/
theorem load_all_or_nothing (place : Place) :
    (∀ s v, place.content = .bytes (String.toUTF8 s) → Renders s.toList (Json.tokens v) →
      (∀ given, Lists v given →
        (∀ c, Gives given c → ∀ field : Field,
          field.Agrees (load place) (if field ∈ given.map (·.1) then c else {})) ∧
        ((∀ c, ¬ Gives given c) → load place = {})) ∧
      ((∀ given, ¬ Lists v given) → load place = {})) ∧
    ((∀ s v, place.content = .bytes (String.toUTF8 s) → ¬ Renders s.toList (Json.tokens v)) →
      load place = {}) := by
  refine ⟨fun s v hcontent hs => ?_, load_of_no_text⟩
  rw [load_of_renders hcontent hs]
  refine ⟨fun given hlists => ⟨fun c hgives field => ?_, fun hnone => ?_⟩, fun hnone => ?_⟩
  · rw [ofJson?_of_gives hlists hgives]
    exact agrees_foldl_copy field c {} _
  · cases hv : ofJson? v with
    | none => rfl
    | some c =>
        obtain ⟨given', hlists', hgives, -⟩ := ofJson?_eq_some_iff.mp hv
        rw [← hlists.unique hlists'] at hgives
        exact absurd hgives (hnone c)
  · cases hv : ofJson? v with
    | none => rfl
    | some c =>
        obtain ⟨given, hlists, -⟩ := ofJson?_eq_some_iff.mp hv
        exact absurd hlists (hnone given)

/-- One text lists two settings, one with an escape in its value, beside a member of no known name.
The other one gives a number for a flag. -/
theorem load_all_or_nothing_unknown_member :
    let place (text : String) : Place := { content := .bytes text.toUTF8 }
    let good :=
      "\x7b\"later\": [\x7b\"a\": -2.5e3\x7d, null],\n\t\"max_rows\" :10, \"isolation\":" ++
        "\"\\u0053erializable\"\x7d"
    let bad := "\x7b\"max_rows\":10,\"batch\":1\x7d"
    (load (place good)).maxRows = 10 ∧ (load (place good)).isolation = some .serializable ∧
      (load (place good)).batch = false ∧ load (place bad) = {} := by
  intro place good bad
  let codes (text : String) : List Nat := text.toList.map Char.toNat
  let members : List (List Nat × Json) := [
    (codes "later", .array [.object [(codes "a", .number "-2.5e3".toList)], .null]),
    (codes "max_rows", .number ['1', '0']), (codes "isolation", .string (codes "Serializable"))]
  let badMembers : List (List Nat × Json) :=
    [(codes "max_rows", .number ['1', '0']), (codes "batch", .number ['1'])]
  have hgood : Renders good.toList (Json.object members).tokens := .of_tokens? (by decide +kernel)
  have hbad : Renders bad.toList (Json.object badMembers).tokens := .of_tokens? (by decide +kernel)
  have lists (members) (h : (members.all fun m => (text? m.1).isSome) = true) :
      Lists (.object members) (settings members) :=
    .object fun m hm => Option.isSome_iff_exists.mp (List.all_eq_true.mp h m hm)
  have hgives : Gives (settings members)
      { maxRows := 10, isolation := some .serializable, batch := true } := by
    have hsettings : settings members =
        [(.maxRows, .number ['1', '0']), (.isolation, .string (codes "Serializable"))] := rfl
    have hrows : IsNatural 10 (.number ['1', '0']) := ⟨_, rfl, List.all_eq_true.mp rfl, rfl⟩
    have hlevel : IsName "Serializable" (.string (codes "Serializable")) := ⟨_, rfl, .inl rfl⟩
    rw [hsettings]
    exact ⟨by decide, List.forall_mem_cons.mpr ⟨hrows, List.forall_mem_singleton.mpr hlevel⟩⟩
  have hnone (c : Config) : ¬ Gives (settings badMembers) c := fun h => by
    have hbatch : Field.Holds c (.number ['1']) .batch :=
      h.holds (.batch, .number ['1']) (List.mem_cons_of_mem _ List.mem_cons_self)
    cases hbatch
  obtain ⟨hgoodText, -⟩ := load_all_or_nothing (place good)
  obtain ⟨hbadText, -⟩ := load_all_or_nothing (place bad)
  have hload := ((hgoodText good _ rfl hgood).1 _ (lists _ rfl)).1 _ hgives
  exact ⟨hload .maxRows, hload .isolation, hload .batch,
    ((hbadText bad _ rfl hbad).1 _ (lists _ rfl)).2 hnone⟩

end SqlGateway.Config
