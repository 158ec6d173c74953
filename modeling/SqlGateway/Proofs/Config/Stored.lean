import SqlGateway.Config.File
import SqlGateway.Execution.Options
import SqlGateway.Proofs.Config.Given
import SqlGateway.Proofs.Json.Reader
import SqlGateway.Proofs.Text.Basic

/-!
# Written configurations

The text of a configuration is the JSON object of its settings, from which it is read again.
-/

namespace SqlGateway.Config

open Json Number

/-! ## Settings -/

/-- The value that stands for a setting. -/
def Field.json (c : Config) : Field → Json
  | .timeoutSeconds => .number (digits c.timeoutSeconds.toNat)
  | .poolable => .bool c.poolable
  | .escapeProcessing => .bool c.escapeProcessing
  | .batch => .bool c.batch
  | .large => .bool c.large
  | .isolation =>
    match c.isolation with
    | some level => .string (level.storedName.toList.map Char.toNat)
    | none => .null
  | .fetchSize => .number (digits c.fetchSize.toNat)
  | .maxRows => .number (digits c.maxRows.toNat)

def Field.member (c : Config) (field : Field) : List Nat × Json :=
  (field.name.toList.map Char.toNat, field.json c)

theorem Field.holds_json (field : Field) (c : Config) : field.Holds c (field.json c) := by
  have natural (n : Nat) : IsNatural n (.number (digits n)) :=
    ⟨_, rfl, digitRun_digits n, digitsValue_digits n⟩
  cases field with
  | timeoutSeconds | fetchSize | maxRows => exact natural _
  | poolable | escapeProcessing | batch | large => rfl
  | isolation =>
      rw [Field.Holds, Field.json]
      cases c.isolation with
      | none => rfl
      | some level => exact ⟨_, text?_toNat _, .inl rfl⟩

theorem Field.ofName?_name (field : Field) : ofName? field.name = some field := by
  cases field <;> decide

theorem settings_members (c : Config) (fields : List Field) :
    settings (fields.map (Field.member c)) = fields.map fun field => (field, field.json c) := by
  have hmember (field : Field) : ((text? (field.member c).1).bind Field.ofName?).map
      (·, (field.member c).2) = some (field, field.json c) := by
    simp [Field.member, text?_toNat, Field.ofName?_name]
  rw [settings, List.filterMap_map, ← List.filterMap_eq_map]
  exact congrArg (List.filterMap · fields) (funext hmember)

theorem ofJson?_members (c : Config) :
    ofJson? (.object (Field.all.map (Field.member c))) = some c := by
  have hnames : ∀ m ∈ Field.all.map (Field.member c), ∃ name, text? m.1 = some name := by
    refine List.forall_mem_map.mpr fun field _ => ?_
    exact ⟨_, text?_toNat field.name⟩
  have hfields : (settings (Field.all.map (Field.member c))).map (·.1) = Field.all := by
    rw [settings_members, List.map_map]
    exact List.map_id _
  refine ofJson?_eq_some_iff.mpr
    ⟨_, .object hnames, ⟨hfields ▸ nodup_all, ?_⟩, fun field hfield => ?_⟩
  · rw [settings_members]
    exact List.forall_mem_map.mpr fun field _ => field.holds_json c
  · rw [hfields] at hfield
    exact absurd (mem_all field) hfield

/-! ## Texts -/

theorem Field.isPlain_name (field : Field) : ∀ c ∈ field.name.toList, isPlain c = true := by
  refine List.all_eq_true.mp ?_
  cases field <;> decide

theorem isPlain_storedName (level : IsolationLevel) :
    ∀ c ∈ level.storedName.toList, isPlain c = true := by
  refine List.all_eq_true.mp ?_
  cases level <;> decide

theorem renders_flagText (b : Bool) : Renders (flagText b) [.bool b] := by
  cases b <;> exact .lexeme (.bool _)

theorem Field.renders_text (field : Field) (c : Config) :
    Renders (field.text c) (field.json c).tokens := by
  cases field with
  | timeoutSeconds | fetchSize | maxRows => exact .lexeme (.number (numberText_digits _))
  | poolable | escapeProcessing | batch | large => exact renders_flagText _
  | isolation =>
      rw [Field.text, Field.json]
      cases c.isolation with
      | none => exact .lexeme .null
      | some level => exact .string (isPlain_storedName level) .nil

theorem Field.line_eq (field : Field) (c : Config) :
    field.line c =
      '\n' :: ' ' :: ' ' :: '"' :: (field.name.toList ++ '"' :: ':' :: ' ' :: field.text c) := by
  -- Lean is slow to check the equation of a definition with string literals as lists
  delta Field.line
  simp

theorem Field.renders_line (field : Field) (c : Config) :
    Renders (field.line c)
      (.string (field.name.toList.map Char.toNat) :: .colon :: (field.json c).tokens) := by
  have hvalue : Renders (':' :: ' ' :: field.text c) (.colon :: (field.json c).tokens) :=
    .mark .colon (.space rfl (field.renders_text c))
  rw [Field.line_eq]
  exact .space rfl (.space rfl (.space rfl (.string field.isPlain_name hvalue)))

theorem renders_lines (c : Config) (field : Field) (fields : List Field) :
    Renders ([','].intercalate ((field :: fields).map (Field.line c)) ++ "\n\x7d".toList)
      (.string (field.name.toList.map Char.toNat) :: .colon ::
        ((field.json c).tokens ++ membersTail (fields.map (Field.member c)))) := by
  induction fields generalizing field with
  | nil =>
      have hend : Renders "\n\x7d".toList [.closeObject] := .space rfl (.lexeme .closeObject)
      simpa [List.intercalate, membersTail] using (field.renders_line c).append hend
  | cons next fields ih =>
      have hlines := (field.renders_line c).append (.mark .comma (ih next))
      simpa [List.intercalate, membersTail, Field.member] using hlines

theorem read?_text (c : Config) : read? c.text = some c := by
  have htext : Renders c.text.toList (Json.object (Field.all.map (Field.member c))).tokens := by
    rw [Config.text, String.toList_ofList]
    exact .mark .openObject (renders_lines c .timeoutSeconds Field.all.tail)
  rw [read?, read?_eq_some_iff.mpr htext]
  exact ofJson?_members c

/-! ## Files -/

theorem save?_of_writable (c : Config) {place : Place} (hfile : place.content ≠ .directory)
    (hreachable : place.reachable = true) :
    c.save? place = some { place with content := .bytes c.text.toUTF8 } := by
  rw [save?]
  split
  · rename_i hdirectory
    exact absurd hdirectory hfile
  · exact if_pos hreachable
  · exact if_pos hreachable

theorem load_text (c : Config) {place : Place} (h : place.content = .bytes c.text.toUTF8) :
    load place = c := by
  simp only [load, h, Text.fromUTF8?_toUTF8, Option.bind_some, read?_text, Option.getD_some]

/-- Where a file can be written, every configuration is saved, and its file loads as the
configuration again and gives the same options. So is what any file was found to hold. -/
theorem saved_loads_back {place : Place} (hfile : place.content ≠ .directory)
    (hreachable : place.reachable = true) :
    (∀ c : Config, ∃ saved, c.save? place = some saved ∧ saved.content = .bytes c.text.toUTF8 ∧
      load saved = c ∧ (load saved).options = c.options) ∧
    ∀ found : Place, ∃ saved, (load found).save? place = some saved ∧ load saved = load found := by
  constructor
  · intro c
    have hload : load { place with content := .bytes c.text.toUTF8 } = c := load_text c rfl
    exact ⟨_, c.save?_of_writable hfile hreachable, rfl, hload, congrArg options hload⟩
  · intro found
    exact ⟨_, (load found).save?_of_writable hfile hreachable, load_text _ rfl⟩

/-- A configuration with the largest numbers. -/
def largest : Config where
  timeoutSeconds := 18446744073709551615
  poolable := true
  isolation := some .serializable
  fetchSize := 4294967295
  maxRows := 18446744073709551615

/-- The largest numbers are read back as they were written. -/
theorem saved_loads_back_largest :
    largest.text =
      "\x7b\n  \"timeout_secs\": 18446744073709551615,\n  \"poolable\": true,\n" ++
      "  \"escape_processing\": true,\n  \"batch\": false,\n  \"large\": false,\n" ++
      "  \"isolation\": \"Serializable\",\n  \"fetch_size\": 4294967295,\n" ++
      "  \"max_rows\": 18446744073709551615\n\x7d" ∧
    ∃ saved, largest.save? { content := .absent } = some saved ∧
      saved.content = .bytes largest.text.toUTF8 ∧ load saved = largest ∧
      (load saved).options = largest.options := by
  have hplace : ({ content := .absent } : Place).content ≠ .directory := nofun
  exact ⟨by decide +kernel, (saved_loads_back hplace rfl).1 largest⟩

end SqlGateway.Config
