import SqlGateway.Config.Format
import SqlGateway.Proofs.Json.Token

/-!
# Given settings

A JSON value gives settings one after another. It is a configuration if each is given once and with
a value of its own kind, and then it is the one that has these values, and else the defaults.
-/

namespace SqlGateway.Config

open Json Number

variable {c d d' : Config} {field other : Field} {json : Json} {name : String} {n max : Nat}

/-! ## Values -/

/-- A number without sign, fraction and exponent. -/
def IsNatural (n : Nat) (json : Json) : Prop :=
  ∃ text, json = .number text ∧ DigitRun text ∧ digitsValue text = n

/-- A name that stands alone, or as the only member of an object, with null as its value. -/
def IsName (name : String) (json : Json) : Prop :=
  ∃ codes, text? codes = some name ∧ (json = .string codes ∨ json = .object [(codes, .null)])

/-- The JSON value stands for what the setting is in `c`. -/
def Field.Holds (c : Config) (json : Json) : Field → Prop
  | .timeoutSeconds => IsNatural c.timeoutSeconds.toNat json
  | .poolable => json = .bool c.poolable
  | .escapeProcessing => json = .bool c.escapeProcessing
  | .batch => json = .bool c.batch
  | .large => json = .bool c.large
  | .isolation =>
    match c.isolation with
    | some level => IsName level.storedName json
    | none => json = .null
  | .fetchSize => IsNatural c.fetchSize.toNat json
  | .maxRows => IsNatural c.maxRows.toNat json

theorem readNumber?_eq_some_iff :
    readNumber? max json = some n ↔ IsNatural n json ∧ n ≤ max := by
  constructor
  · intro h
    unfold readNumber? at h
    split at h
    · rename_i text
      obtain ⟨hread, h⟩ := Option.ite_none_right_eq_some.mp h
      cases h
      simp only [Bool.and_eq_true, decide_eq_true_eq, digitRun_iff] at hread
      exact ⟨⟨text, rfl, hread.1, rfl⟩, hread.2⟩
    · cases h
  · rintro ⟨⟨text, rfl, hdigits, rfl⟩, hmax⟩
    simp [readNumber?, digitRun_iff.mpr hdigits, hmax]

theorem readFlag?_eq_some_iff {b : Bool} : readFlag? json = some b ↔ json = .bool b := by
  cases json <;> simp [readFlag?]

theorem readName?_eq_some_iff : readName? json = some name ↔ IsName name json := by
  constructor
  · intro h
    unfold readName? at h
    split at h
    · exact ⟨_, h, .inl rfl⟩
    · exact ⟨_, h, .inr rfl⟩
    · cases h
  · rintro ⟨codes, hname, rfl | rfl⟩ <;> exact hname

theorem ofStoredName?_eq_some_iff {level : IsolationLevel} :
    IsolationLevel.ofStoredName? name = some level ↔ level.storedName = name := by
  constructor
  · intro h
    have hname := List.find?_some h
    exact eq_of_beq hname
  · rintro rfl
    cases level <;> decide

theorem readIsolation?_eq_some_iff {level : Option IsolationLevel} :
    readIsolation? json = some level ↔
      match level with
      | some level => IsName level.storedName json
      | none => json = .null := by
  unfold readIsolation?
  split
  · cases level with
    | none => simp
    | some level => simp [IsName]
  · rename_i hnull
    simp only [Option.bind_eq_bind, Option.bind_eq_some_iff, readName?_eq_some_iff,
      ofStoredName?_eq_some_iff]
    constructor
    · rintro ⟨name, hname, level, rfl, h⟩
      cases h
      exact hname
    · intro h
      cases level with
      | none => exact absurd h hnull
      | some level => exact ⟨_, h, level, rfl, rfl⟩

/-! ## One setting -/

/-- The setting has the same value in both. -/
def Field.Agrees (c d : Config) : Field → Prop
  | .timeoutSeconds => c.timeoutSeconds = d.timeoutSeconds
  | .poolable => c.poolable = d.poolable
  | .escapeProcessing => c.escapeProcessing = d.escapeProcessing
  | .batch => c.batch = d.batch
  | .large => c.large = d.large
  | .isolation => c.isolation = d.isolation
  | .fetchSize => c.fetchSize = d.fetchSize
  | .maxRows => c.maxRows = d.maxRows

/-- The configuration `d` with one setting as in `c`. -/
def Field.copy (c d : Config) : Field → Config
  | .timeoutSeconds => { d with timeoutSeconds := c.timeoutSeconds }
  | .poolable => { d with poolable := c.poolable }
  | .escapeProcessing => { d with escapeProcessing := c.escapeProcessing }
  | .batch => { d with batch := c.batch }
  | .large => { d with large := c.large }
  | .isolation => { d with isolation := c.isolation }
  | .fetchSize => { d with fetchSize := c.fetchSize }
  | .maxRows => { d with maxRows := c.maxRows }

theorem eq_of_agrees (h : ∀ field : Field, field.Agrees c d) : c = d := by
  cases c
  cases d
  simpa using ⟨h .timeoutSeconds, h .poolable, h .escapeProcessing, h .batch, h .large,
    h .isolation, h .fetchSize, h .maxRows⟩

namespace Field

theorem agrees_refl (field : Field) (c : Config) : field.Agrees c c := by
  cases field <;> rfl

theorem Agrees.symm (h : field.Agrees c d) : field.Agrees d c := by
  cases field <;> exact Eq.symm h

theorem Agrees.trans (h : field.Agrees c d) (h' : field.Agrees d d') : field.Agrees c d' := by
  cases field <;> exact Eq.trans h h'

theorem Agrees.holds_iff (h : field.Agrees c d) : field.Holds c json ↔ field.Holds d json := by
  cases field <;> simp only [Agrees] at h <;> simp only [Holds, h]

theorem agrees_copy_self (field : Field) (c d : Config) : field.Agrees (field.copy c d) c := by
  cases field <;> rfl

theorem copy_copy (field : Field) (c d : Config) :
    field.copy (field.copy c d) d = field.copy c d := by
  cases field <;> rfl

theorem agrees_copy_of_ne (h : other ≠ field) (c d : Config) : other.Agrees (field.copy c d) d := by
  cases field <;> cases other <;> first | rfl | exact absurd rfl h

theorem readNumber?_word64 (x : UInt64) :
    readNumber? (UInt64.size - 1) json = some x.toNat ↔ IsNatural x.toNat json := by
  rw [readNumber?_eq_some_iff, and_iff_left (Nat.le_sub_one_of_lt x.toNat_lt)]

theorem readNumber?_word32 (x : UInt32) :
    readNumber? (UInt32.size - 1) json = some x.toNat ↔ IsNatural x.toNat json := by
  rw [readNumber?_eq_some_iff, and_iff_left (Nat.le_sub_one_of_lt x.toNat_lt)]

theorem toNat_of_readNumber64 (h : readNumber? (UInt64.size - 1) json = some n) :
    (UInt64.ofNat n).toNat = n :=
  UInt64.toNat_ofNat_of_lt' (Nat.lt_of_le_pred (by decide) (readNumber?_eq_some_iff.mp h).2)

theorem toNat_of_readNumber32 (h : readNumber? (UInt32.size - 1) json = some n) :
    (UInt32.ofNat n).toNat = n :=
  UInt32.toNat_ofNat_of_lt' (Nat.lt_of_le_pred (by decide) (readNumber?_eq_some_iff.mp h).2)

theorem map_put_iff {α : Type} {read : Option α} {put : α → Config} (get : Config → α)
    (h : ∀ a, read = some a → get (put a) = a) :
    read.map put = some d ↔ read = some (get d) ∧ d = put (get d) := by
  rw [Option.map_eq_some_iff]
  constructor
  · rintro ⟨a, ha, rfl⟩
    rw [h a ha]
    exact ⟨ha, rfl⟩
  · rintro ⟨hread, hd⟩
    exact ⟨_, hread, hd.symm⟩

/-- A setting is read from what it is afterwards, and the others are left alone. -/
theorem set?_eq_some_iff :
    field.set? json c = some d ↔ field.Holds d json ∧ d = field.copy d c := by
  cases field with
  | timeoutSeconds =>
      rw [set?, map_put_iff (·.timeoutSeconds.toNat) fun _ => toNat_of_readNumber64,
        readNumber?_word64]
      simp [Holds, copy]
  | fetchSize =>
      rw [set?, map_put_iff (·.fetchSize.toNat) fun _ => toNat_of_readNumber32, readNumber?_word32]
      simp [Holds, copy]
  | maxRows =>
      rw [set?, map_put_iff (·.maxRows.toNat) fun _ => toNat_of_readNumber64, readNumber?_word64]
      simp [Holds, copy]
  | poolable =>
      rw [set?, map_put_iff (·.poolable) fun _ _ => rfl, readFlag?_eq_some_iff]
      rfl
  | escapeProcessing =>
      rw [set?, map_put_iff (·.escapeProcessing) fun _ _ => rfl, readFlag?_eq_some_iff]
      rfl
  | batch =>
      rw [set?, map_put_iff (·.batch) fun _ _ => rfl, readFlag?_eq_some_iff]
      rfl
  | large =>
      rw [set?, map_put_iff (·.large) fun _ _ => rfl, readFlag?_eq_some_iff]
      rfl
  | isolation =>
      rw [set?, map_put_iff (·.isolation) fun _ _ => rfl, readIsolation?_eq_some_iff]
      rfl

end Field

/-! ## Many settings -/

/-- Settings set one after another. -/
def setAll? (given : List (Field × Json)) (d : Config) : Option Config :=
  given.foldlM (fun d x => x.1.set? x.2 d) d

theorem setAll?_cons (x : Field × Json) (given : List (Field × Json)) (d : Config) :
    setAll? (x :: given) d = (x.1.set? x.2 d).bind (setAll? given) :=
  rfl

/-- What is given are values of the settings in `c`, each once. -/
structure Gives (given : List (Field × Json)) (c : Config) : Prop where
  once : (given.map (·.1)).Nodup
  holds : ∀ x ∈ given, x.1.Holds c x.2

variable {given : List (Field × Json)} {fields : List Field} {members : List (List Nat × Json)}
  {items : List Json}

theorem setAll?_eq_some_iff (h : (given.map (·.1)).Nodup) :
    setAll? given d = some c ↔
      (∀ x ∈ given, x.1.Holds c x.2) ∧ ∀ field ∉ given.map (·.1), field.Agrees c d := by
  induction given generalizing d with
  | nil =>
      constructor
      · rintro ⟨⟩
        exact ⟨List.forall_mem_nil _, fun field _ => field.agrees_refl c⟩
      · rintro ⟨-, hagrees⟩
        exact congrArg some (eq_of_agrees fun field => hagrees field List.not_mem_nil).symm
  | cons x given ih =>
      obtain ⟨hnew, hgiven⟩ := List.nodup_cons.mp h
      rw [setAll?_cons, Option.bind_eq_some_iff, List.forall_mem_cons]
      simp only [Field.set?_eq_some_iff, ih hgiven, List.map_cons, List.mem_cons, not_or]
      constructor
      · rintro ⟨d', ⟨hholds, hd'⟩, hgiven, hagrees⟩
        refine ⟨⟨(hagrees x.1 hnew).holds_iff.mpr hholds, hgiven⟩, fun field hfield => ?_⟩
        rw [hd'] at hagrees
        exact (hagrees field hfield.2).trans (Field.agrees_copy_of_ne hfield.1 _ _)
      · rintro ⟨⟨hholds, hgiven⟩, hagrees⟩
        have hself := x.1.agrees_copy_self c d
        refine ⟨x.1.copy c d, ⟨hself.holds_iff.mpr hholds, (x.1.copy_copy c d).symm⟩, hgiven,
          fun field hfield => ?_⟩
        obtain rfl | hne := eq_or_ne field x.1
        · exact hself.symm
        · exact (hagrees field ⟨hne, hfield⟩).trans (Field.agrees_copy_of_ne hne c d).symm

/-! ## Objects and arrays -/

/-- The settings among the members of an object. -/
def settings (members : List (List Nat × Json)) : List (Field × Json) :=
  members.filterMap fun (codes, json) => ((text? codes).bind Field.ofName?).map (·, json)

theorem subset_erase_iff (h : fields.Nodup) {read : List Field} :
    read ⊆ fields.erase field ↔ read ⊆ fields ∧ field ∉ read := by
  simp only [List.subset_def, h.mem_erase_iff]
  constructor
  · intro hread
    exact ⟨fun hf => (hread hf).2, fun hfield => (hread hfield).1 rfl⟩
  · rintro ⟨hread, hfield⟩ f hf
    exact ⟨by rintro rfl; exact hfield hf, hread hf⟩

theorem ofMembers?_eq_some_iff (hfields : fields.Nodup) :
    ofMembers? d fields members = some c ↔
      (∀ m ∈ members, ∃ name, text? m.1 = some name) ∧ ((settings members).map (·.1)).Nodup ∧
        (settings members).map (·.1) ⊆ fields ∧ setAll? (settings members) d = some c := by
  induction members generalizing d fields with
  | nil => simp [ofMembers?, settings, setAll?]
  | cons m members ih =>
      obtain ⟨codes, json⟩ := m
      cases hname : text? codes with
      | none => simp [ofMembers?, hname]
      | some name =>
          cases hfield : Field.ofName? name with
          | none =>
              have hsettings : settings ((codes, json) :: members) = settings members := by
                simp [settings, hname, hfield]
              simp [ofMembers?, hname, hfield, hsettings, ih hfields]
          | some field =>
              have hsettings :
                  settings ((codes, json) :: members) = (field, json) :: settings members := by
                simp [settings, hname, hfield]
              rw [hsettings, setAll?_cons, List.map_cons, List.nodup_cons, List.cons_subset]
              by_cases hmem : field ∈ fields
              · simp only [ofMembers?, hname, hfield, hmem, if_true, Option.bind_eq_bind,
                  Option.bind_some, Option.bind_eq_some_iff, ih (hfields.erase field),
                  subset_erase_iff hfields, List.forall_mem_cons, Option.some.injEq,
                  exists_eq', true_and]
                constructor
                · rintro ⟨next, hset, hnames, honce, ⟨hread, hnew⟩, hrest⟩
                  exact ⟨hnames, ⟨hnew, honce⟩, hread, next, hset, hrest⟩
                · rintro ⟨hnames, ⟨hnew, honce⟩, hread, next, hset, hrest⟩
                  exact ⟨next, hset, hnames, honce, ⟨hread, hnew⟩, hrest⟩
              · simp [ofMembers?, hname, hfield, hmem]

theorem ofItems?_eq_some_iff :
    ofItems? d fields items = some c ↔
      items.length ≤ fields.length ∧ setAll? (fields.zip items) d = some c := by
  induction items generalizing d fields with
  | nil => simp [ofItems?, setAll?]
  | cons json items ih =>
      cases fields with
      | nil => simp [ofItems?]
      | cons field fields =>
          rw [ofItems?, List.zip_cons_cons, setAll?_cons, Option.bind_eq_bind,
            Option.bind_eq_some_iff, Option.bind_eq_some_iff]
          simp only [ih, List.length_cons, Nat.add_le_add_iff_right, and_left_comm, exists_and_left]

theorem once_zip (h : fields.Nodup) (items : List Json) :
    ((fields.zip items).map (·.1)).Nodup := by
  rw [List.zip_eq_zip_take_min, List.map_fst_zip (by simp)]
  exact h.sublist (List.take_sublist _ _)

/-- The settings that a JSON value gives: members of an object by their names, or items of an array
in the order in which configurations are stored. -/
inductive Lists : Json → List (Field × Json) → Prop
  | object {members : List (List Nat × Json)}
      (hnames : ∀ m ∈ members, ∃ name, text? m.1 = some name) :
      Lists (.object members) (settings members)
  | array {items : List Json} (hlength : items.length ≤ Field.all.length) :
      Lists (.array items) (Field.all.zip items)

theorem Lists.unique {v : Json} {given' : List (Field × Json)} (h : Lists v given)
    (h' : Lists v given') : given = given' := by
  cases h <;> cases h' <;> rfl

theorem mem_all (field : Field) : field ∈ Field.all := by
  cases field <;> decide

theorem nodup_all : Field.all.Nodup := by
  decide

theorem ofJson?_eq_some_iff {v : Json} : ofJson? v = some c ↔
    ∃ given, Lists v given ∧ Gives given c ∧ ∀ field ∉ given.map (·.1), field.Agrees c {} := by
  cases v with
  | object members =>
      rw [ofJson?, ofMembers?_eq_some_iff nodup_all]
      constructor
      · rintro ⟨hnames, honce, -, hset⟩
        obtain ⟨hholds, hdefault⟩ := (setAll?_eq_some_iff honce).mp hset
        exact ⟨_, .object hnames, ⟨honce, hholds⟩, hdefault⟩
      · rintro ⟨_, hlists, hgives, hdefault⟩
        cases hlists with
        | object hnames =>
            exact ⟨hnames, hgives.once, fun field _ => mem_all field,
              (setAll?_eq_some_iff hgives.once).mpr ⟨hgives.holds, hdefault⟩⟩
  | array items =>
      have honce := once_zip nodup_all items
      rw [ofJson?, ofItems?_eq_some_iff, setAll?_eq_some_iff honce]
      constructor
      · rintro ⟨hlength, hholds, hdefault⟩
        exact ⟨_, .array hlength, ⟨honce, hholds⟩, hdefault⟩
      · rintro ⟨_, hlists, hgives, hdefault⟩
        cases hlists with
        | array hlength => exact ⟨hlength, hgives.holds, hdefault⟩
  | null | bool | number | string =>
      refine ⟨nofun, ?_⟩
      rintro ⟨_, ⟨⟩, -⟩

end SqlGateway.Config
