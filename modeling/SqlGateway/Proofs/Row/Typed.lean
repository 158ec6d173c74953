import SqlGateway.Database.ResultSet
import SqlGateway.Proofs.Act.Reading
import SqlGateway.Proofs.Text.Basic
import SqlGateway.Row.Reader

/-!
# Reading columns by their declared types

What a column gives is null where its cell is, and otherwise a value of the family that its type
declares. Such a value is read as itself, and whether a column is read through a stream makes no
difference.
-/

namespace SqlGateway

open Value Database

/-! ## Conversions -/

/-- A conversion finds nothing in null alone and takes a value of its family for itself. -/
structure Faithful {α : Type} (convert : Value → Except Failure (Option α)) (family : α → Value) :
    Prop where
  none_iff : ∀ v, convert v = .ok none ↔ v = .null
  family_ne_null : ∀ a, family a ≠ .null
  convert_family : ∀ a, convert (family a) = .ok (some a)

namespace Value

theorem orMismatch_ne_none {α : Type} (v : Value) (wanted : String) (read : Option α) :
    v.orMismatch wanted read ≠ .ok none := by
  cases read <;> nofun

theorem faithful_toBool : Faithful toBool .bool where
  none_iff v := by cases v <;> simp [toBool, orMismatch_ne_none]
  family_ne_null _ h := by cases h
  convert_family _ := rfl

theorem faithful_toInteger : Faithful toInteger .int where
  none_iff v := by cases v <;> simp [toInteger, orMismatch_ne_none]
  family_ne_null _ h := by cases h
  convert_family _ := rfl

theorem faithful_toFloat : Faithful toFloat .float where
  none_iff v := by cases v <;> simp [toFloat, orMismatch_ne_none]
  family_ne_null _ h := by cases h
  convert_family _ := rfl

theorem faithful_toDecimal : Faithful toDecimal .decimal where
  none_iff v := by cases v <;> simp [toDecimal, orMismatch_ne_none]
  family_ne_null _ h := by cases h
  convert_family _ := rfl

theorem faithful_toText : Faithful toText .text where
  none_iff v := by cases v <;> simp [toText]
  family_ne_null _ h := by cases h
  convert_family _ := rfl

theorem faithful_toBytes : Faithful toBytes .bytes where
  none_iff v := by cases v <;> simp [toBytes]
  family_ne_null _ h := by cases h
  convert_family _ := rfl

theorem faithful_toDate : Faithful toDate .date where
  none_iff v := by cases v <;> simp [toDate, orMismatch_ne_none]
  family_ne_null _ h := by cases h
  convert_family _ := rfl

theorem faithful_toTime : Faithful toTime .time where
  none_iff v := by cases v <;> simp [toTime, orMismatch_ne_none]
  family_ne_null _ h := by cases h
  convert_family _ := rfl

theorem faithful_toTimestamp : Faithful toTimestamp .timestamp where
  none_iff v := by cases v <;> simp [toTimestamp, orMismatch_ne_none]
  family_ne_null _ h := by cases h
  convert_family _ := rfl

end Value

/-! ## Types -/

/-- The value `v` is what a column of the type may give for a cell that holds `raw` and not null. -/
def SqlType.Gives (type : SqlType) (raw v : Value) : Prop :=
  match type with
  | .binary | .varBinary | .longVarBinary | .blob => ∃ bs, v = .bytes bs
  | .char | .varChar | .longVarChar | .nChar | .nVarChar | .clob => ∃ s, v = .text s
  | .bit | .boolean => ∃ b, v = .bool b
  | .tinyInt | .smallInt | .integer | .bigInt => ∃ n, v = .int n
  | .decimal | .numeric => ∃ s, v = .decimal s
  | .float | .double | .real => ∃ x, v = .float x
  | .date => ∃ d, v = .date d
  | .time | .timeWithTimezone => ∃ t, v = .time t
  | .timestamp | .timestampWithTimezone => ∃ ts, v = .timestamp ts
  | .refCursor | .object | .other => v = raw

/-- A value read as the type declares: converted, or as it is. -/
def SqlType.convert : SqlType → Value → Except Failure Value
  | .binary | .varBinary | .longVarBinary | .blob => fun v => v.toBytes.map (ofOption .bytes)
  | .char | .varChar | .longVarChar | .nChar | .nVarChar | .clob =>
    fun v => v.toText.map (ofOption .text)
  | .bit | .boolean => fun v => v.toBool.map (ofOption .bool)
  | .tinyInt | .smallInt | .integer | .bigInt => fun v => v.toInteger.map (ofOption .int)
  | .decimal | .numeric => fun v => v.toDecimal.map (ofOption .decimal)
  | .float | .double | .real => fun v => v.toFloat.map (ofOption .float)
  | .date => fun v => v.toDate.map (ofOption .date)
  | .time | .timeWithTimezone => fun v => v.toTime.map (ofOption .time)
  | .timestamp | .timestampWithTimezone => fun v => v.toTimestamp.map (ofOption .timestamp)
  | .refCursor | .object | .other => .ok

/-! ## Cells -/

/-- What a cursor tells of its cells if it makes streams of their values. -/
def CellRead.byDefault (cell : Nat → Except Failure Value) :
    (r : CellRead) → Except Failure r.Answer
  | .object index => cell index
  | .binaryStream index => Database.binaryStream (cell index)
  | .characterStream index => Database.characterStream (cell index)

/-- What a column of the type gives for the cell with the index. -/
def SqlType.readCell (type : SqlType) (index : Nat) (cell : Nat → Except Failure Value) :
    Except Failure Value :=
  (type.reader.read index).run.eval (CellRead.byDefault cell)

variable {cell : Nat → Except Failure Value} {index : Nat} {raw v : Value}

theorem eval_readAs {α : Type} (convert : Value → Except Failure (Option α)) (f : Option α → Value)
    (h : cell index = .ok raw) :
    (f <$> readAs convert index).run.eval (CellRead.byDefault cell) = (convert raw).map f := by
  rw [map_eq_pure_bind, Reading.eval_bindAct, readAs, Reading.eval_bindAct]
  change (((cell index).bind convert).bind fun a => .ok (f a)) = _
  rw [h]
  cases hconvert : convert raw <;> simp [Except.bind, Except.map, hconvert]

theorem binaryStream_ok (v : Value) :
    Database.binaryStream (.ok v) = v.toBytes.map (Option.map Stream.bytes) := by
  change v.toBytes.bind _ = _
  cases v.toBytes <;> rfl

theorem characterStream_ok (v : Value) :
    Database.characterStream (.ok v) =
      v.toText.map (Option.map fun text => .bytes text.toUTF8) := by
  change v.toText.bind _ = _
  cases v.toText <;> rfl

theorem eval_binaryStream (h : cell index = .ok raw) :
    (Reader.binaryStream.read index).run.eval (CellRead.byDefault cell) =
      raw.toBytes.map (ofOption .bytes) := by
  rw [Reader.read, Reading.eval_bindAct]
  change (Database.binaryStream (cell index)).bind _ = _
  rw [h, binaryStream_ok]
  rcases raw.toBytes with f | _ | bs <;> rfl

theorem eval_characterStream (h : cell index = .ok raw) :
    (Reader.characterStream.read index).run.eval (CellRead.byDefault cell) =
      raw.toText.map (ofOption .text) := by
  rw [Reader.read, Reading.eval_bindAct]
  change (Database.characterStream (cell index)).bind _ = _
  rw [h, characterStream_ok]
  rcases raw.toText with f | _ | s
  · rfl
  · rfl
  · change Stream.readText index (.bytes s.toUTF8) = .ok (.text s)
    simp only [Stream.readText, Text.fromUTF8?_toUTF8]

theorem readCell_eq (type : SqlType) (h : cell index = .ok raw) :
    type.readCell index cell = type.convert raw := by
  cases type with
  | binary | varBinary | blob => exact eval_readAs toBytes (ofOption .bytes) h
  | longVarBinary => exact eval_binaryStream h
  | char | varChar | nChar | nVarChar => exact eval_readAs toText (ofOption .text) h
  | longVarChar | clob => exact eval_characterStream h
  | bit | boolean => exact eval_readAs toBool (ofOption .bool) h
  | tinyInt | smallInt | integer | bigInt => exact eval_readAs toInteger (ofOption .int) h
  | decimal | numeric => exact eval_readAs toDecimal (ofOption .decimal) h
  | float | double | real => exact eval_readAs toFloat (ofOption .float) h
  | date => exact eval_readAs toDate (ofOption .date) h
  | time | timeWithTimezone => exact eval_readAs toTime (ofOption .time) h
  | timestamp | timestampWithTimezone => exact eval_readAs toTimestamp (ofOption .timestamp) h
  | refCursor | object | other => exact h

/-! ## Reading as declared -/

/-- Reading keeps null apart from all else, gives what is declared, and takes that for itself. -/
structure Sound (read : Value → Except Failure Value) (declared : Value → Value → Prop) : Prop where
  null_iff : ∀ {raw v}, read raw = .ok v → (v = .null ↔ raw = .null)
  gives : ∀ {raw v}, read raw = .ok v → raw ≠ .null → declared raw v
  read_null : read .null = .ok .null
  read_again : ∀ {raw v}, declared raw v → read v = .ok v

theorem Faithful.sound {α : Type} {convert : Value → Except Failure (Option α)}
    {family : α → Value} (h : Faithful convert family) :
    Sound (fun v => (convert v).map (ofOption family)) fun _ v => ∃ a, v = family a := by
  have hnull : convert .null = .ok none := (h.none_iff .null).mpr rfl
  constructor
  · intro raw v hread
    rw [← h.none_iff raw]
    rcases hraw : convert raw with f | _ | a
    · simp [hraw, Except.map] at hread
    · simp [hraw, Except.map, ofOption] at hread
      simp [hread]
    · simp [hraw, Except.map, ofOption] at hread
      simp [← hread, h.family_ne_null]
  · intro raw v hread hne
    rcases hraw : convert raw with f | _ | a
    · simp [hraw, Except.map] at hread
    · exact absurd ((h.none_iff raw).mp hraw) hne
    · simp [hraw, Except.map, ofOption] at hread
      exact ⟨a, hread.symm⟩
  · simp [hnull, Except.map, ofOption]
  · rintro raw _ ⟨a, rfl⟩
    simp [h.convert_family, Except.map, ofOption]

theorem sound_convert (type : SqlType) : Sound type.convert type.Gives := by
  cases type with
  | binary | varBinary | longVarBinary | blob => exact faithful_toBytes.sound
  | char | varChar | longVarChar | nChar | nVarChar | clob => exact faithful_toText.sound
  | bit | boolean => exact faithful_toBool.sound
  | tinyInt | smallInt | integer | bigInt => exact faithful_toInteger.sound
  | decimal | numeric => exact faithful_toDecimal.sound
  | float | double | real => exact faithful_toFloat.sound
  | date => exact faithful_toDate.sound
  | time | timeWithTimezone => exact faithful_toTime.sound
  | timestamp | timestampWithTimezone => exact faithful_toTimestamp.sound
  | refCursor | object | other =>
      constructor
      · rintro raw _ ⟨⟩
        rfl
      · rintro raw _ ⟨⟩ -
        rfl
      · rfl
      · exact fun _ => rfl

/-- A column gives null for null alone, else what its type declares, which is read as itself, and a
column that is read through streams gives what the other ones of its family do. -/
theorem columns_read_as_declared (type : SqlType) (h : cell index = .ok raw) :
    (∀ v, type.readCell index cell = .ok v →
      (v = .null ↔ raw = .null) ∧ (raw ≠ .null → type.Gives raw v)) ∧
    (raw = .null → type.readCell index cell = .ok .null) ∧
    (∀ v cell' index', cell' index' = .ok v →
      type.readCell index cell = .ok v ∨ type.Gives raw v → type.readCell index' cell' = .ok v) ∧
    SqlType.longVarBinary.readCell index cell = SqlType.varBinary.readCell index cell ∧
    SqlType.longVarChar.readCell index cell = SqlType.varChar.readCell index cell ∧
    SqlType.clob.readCell index cell = SqlType.varChar.readCell index cell := by
  obtain ⟨hnull, hgives, hread, hagain⟩ := sound_convert type
  simp only [readCell_eq _ h]
  refine ⟨fun v hv => ⟨hnull hv, hgives hv⟩, ?_, fun v cell' index' h' hv => ?_, rfl, rfl, rfl⟩
  · rintro rfl
    exact hread
  · rw [readCell_eq type h']
    rcases hv with hv | hv
    · by_cases hraw : raw = .null
      · rw [(hnull hv).mpr hraw]
        exact hread
      · exact hagain (hgives hv hraw)
    · exact hagain hv

/-- An integer in a column of long text, and the text that it gives. -/
theorem columns_read_as_declared_long_text :
    let cursor : CursorState Value := ⟨[⟨"NOTE", .clob⟩], some [.int 42], [], false⟩
    let again : CursorState Value := { cursor with row := some [.text "42"] }
    cursor.cell 1 = .ok (.int 42) ∧ SqlType.clob.readCell 1 cursor.cell = .ok (.text "42") ∧
      SqlType.clob.Gives (.int 42) (.text "42") ∧
      SqlType.clob.readCell 1 again.cell = .ok (.text "42") ∧
      SqlType.clob.readCell 1 cursor.cell = SqlType.varChar.readCell 1 cursor.cell := by
  intro cursor again
  have hcell : cursor.cell 1 = .ok (.int 42) := rfl
  obtain ⟨hread, -, hagain, -, -, hclob⟩ := columns_read_as_declared .clob hcell
  have htext : SqlType.clob.readCell 1 cursor.cell = .ok (.text "42") := by
    have hdisplay : (Value.int 42).display = "42" := by decide +kernel
    rw [readCell_eq .clob hcell, ← hdisplay]
    rfl
  exact ⟨hcell, htext, (hread _ htext).2 nofun, hagain _ again.cell 1 rfl (.inl htext), hclob⟩

end SqlGateway
