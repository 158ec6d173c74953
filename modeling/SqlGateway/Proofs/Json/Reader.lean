import SqlGateway.Json.Reader
import SqlGateway.Proofs.Json.Token

/-!
# Values as tokens

Every value is read from its tokens, whatever comes after them, and from nothing else.
-/

namespace SqlGateway.Json

mutual

/-- The tokens of a value. -/
def tokens : Json → List Token
  | null => [.null]
  | bool b => [.bool b]
  | number text => [.number text]
  | string codes => [.string codes]
  | array [] => [.openArray, .closeArray]
  | array (item :: items) => .openArray :: (item.tokens ++ itemsTail items)
  | object [] => [.openObject, .closeObject]
  | object ((name, value) :: members) =>
    .openObject :: .string name :: .colon :: (value.tokens ++ membersTail members)

/-- What comes after an item of an array, with further items. -/
def itemsTail : List Json → List Token
  | [] => [.closeArray]
  | item :: items => .comma :: (item.tokens ++ itemsTail items)

/-- What comes after a member of an object, with further members. -/
def membersTail : List (List Nat × Json) → List Token
  | [] => [.closeObject]
  | (name, value) :: members =>
    .comma :: .string name :: .colon :: (value.tokens ++ membersTail members)

end

theorem head_tokens (v : Json) (rest : List Token) :
    ∀ t ∈ (v.tokens ++ rest).head?, t ≠ .closeArray := by
  match v with
  | null | bool _ | number _ | string _ | array [] | array (_ :: _) | object []
  | object ((_, _) :: _) => simp [tokens]

theorem head_itemsTail (items : List Json) (rest : List Token) :
    ∀ t ∈ (itemsTail items ++ rest).head?, t.isWord = false := by
  cases items <;> simp [itemsTail, Token.isWord]

theorem head_membersTail (members : List (List Nat × Json)) (rest : List Token) :
    ∀ t ∈ (membersTail members ++ rest).head?, t.isWord = false := by
  match members with
  | [] | (_, _) :: _ => simp [membersTail, Token.isWord]

/-! ## Steps of the reader -/

variable {t : Token} {ts rest rest' : List Token} {value : Json} {items : List Json}
  {name : List Nat} {members : List (List Nat × Json)}

/-- What is read from the front of the tokens is `a`, and `rest` is left. -/
def Finds {α : Type} (read : (ts : List Token) → Option (Front α ts)) (ts : List Token) (a : α)
    (rest : List Token) : Prop :=
  ∃ h, read ts = some ⟨(a, rest), h⟩

theorem finds_array (hts : ∀ t ∈ ts.head?, t ≠ .closeArray) (h : Finds readItems? ts items rest) :
    Finds readValue? (.openArray :: ts) (.array items) rest := by
  obtain ⟨hlt, h⟩ := h
  refine ⟨Nat.lt_succ_of_lt hlt, ?_⟩
  rw [readValue?, h]
  · rfl
  · rintro _ rfl
    exact hts _ rfl rfl

theorem finds_object (h : Finds readMembers? (.string name :: ts) members rest) :
    Finds readValue? (.openObject :: .string name :: ts) (.object members) rest := by
  obtain ⟨hlt, h⟩ := h
  refine ⟨Nat.lt_succ_of_lt hlt, ?_⟩
  rw [readValue?, h]
  · rfl
  · intro _ hname
    cases hname

theorem finds_last_item (h : Finds readValue? ts value (.closeArray :: rest)) :
    Finds readItems? ts [value] rest := by
  obtain ⟨hlt, h⟩ := h
  refine ⟨Nat.lt_of_succ_lt hlt, ?_⟩
  rw [readItems?, h]
  rfl

theorem finds_item (h : Finds readValue? ts value (.comma :: rest))
    (hrest : Finds readItems? rest items rest') :
    Finds readItems? ts (value :: items) rest' := by
  obtain ⟨hlt, h⟩ := h
  obtain ⟨hlt', hrest⟩ := hrest
  refine ⟨Nat.lt_trans hlt' (Nat.lt_of_succ_lt hlt), ?_⟩
  rw [readItems?, h]
  simp [hrest]

theorem finds_last_member (h : Finds readValue? ts value (.closeObject :: rest)) :
    Finds readMembers? (.string name :: .colon :: ts) [(name, value)] rest := by
  obtain ⟨hlt, h⟩ := h
  have hshort : rest.length < ts.length := Nat.lt_of_succ_lt hlt
  refine ⟨Nat.lt_succ_of_lt (Nat.lt_succ_of_lt hshort), ?_⟩
  rw [readMembers?, h]
  rfl

theorem finds_member (h : Finds readValue? ts value (.comma :: rest))
    (hrest : Finds readMembers? rest members rest') :
    Finds readMembers? (.string name :: .colon :: ts) ((name, value) :: members) rest' := by
  obtain ⟨hlt, h⟩ := h
  obtain ⟨hlt', hrest⟩ := hrest
  have hshort : rest'.length < ts.length := Nat.lt_trans hlt' (Nat.lt_of_succ_lt hlt)
  refine ⟨Nat.lt_succ_of_lt (Nat.lt_succ_of_lt hshort), ?_⟩
  rw [readMembers?, h]
  simp [hrest]

/-! ## Whole values -/

mutual

theorem finds_tokens (v : Json) (rest : List Token) :
    Finds readValue? (v.tokens ++ rest) v rest := by
  match v with
  | null | bool _ | number _ | string _ | array [] | object [] =>
      simp only [tokens, List.cons_append, List.nil_append]
      exact ⟨by simp only [List.length_cons]; omega, by rw [readValue?]⟩
  | array (item :: items) =>
      simp only [tokens, List.cons_append, List.append_assoc]
      exact finds_array (head_tokens item _) (finds_itemsTail items rest (finds_tokens item _))
  | object ((name, value) :: members) =>
      simp only [tokens, List.cons_append, List.append_assoc]
      exact finds_object (finds_membersTail members rest (finds_tokens value _))

theorem finds_itemsTail (items : List Json) (rest : List Token) {ts : List Token} {item : Json}
    (h : Finds readValue? ts item (itemsTail items ++ rest)) :
    Finds readItems? ts (item :: items) rest := by
  match items with
  | [] => exact finds_last_item h
  | next :: items =>
      simp only [itemsTail, List.cons_append, List.append_assoc] at h
      exact finds_item h (finds_itemsTail items rest (finds_tokens next _))

theorem finds_membersTail (members : List (List Nat × Json)) (rest : List Token) {ts : List Token}
    {name : List Nat} {value : Json}
    (h : Finds readValue? ts value (membersTail members ++ rest)) :
    Finds readMembers? (.string name :: .colon :: ts) ((name, value) :: members) rest := by
  match members with
  | [] => exact finds_last_member h
  | (next, nextValue) :: members =>
      simp only [membersTail, List.cons_append, List.append_assoc] at h
      exact finds_member h (finds_membersTail members rest (finds_tokens nextValue _))

end

theorem read?_of_tokens {s : List Char} {v : Json} (h : tokens? s = some v.tokens) :
    read? s = some v := by
  have hread := finds_tokens v []
  rw [List.append_nil] at hread
  obtain ⟨hlt, hread⟩ := hread
  simp [read?, h, hread]

/-! ## What is read -/

theorem of_finds_value (h : Finds readValue? ts value rest) :
    ts = value.tokens ++ rest ∨
      (∃ us items, ts = .openArray :: us ∧ value = .array items ∧ Finds readItems? us items rest) ∨
      ∃ us members, ts = .openObject :: us ∧ value = .object members ∧
        Finds readMembers? us members rest := by
  obtain ⟨hlt, h⟩ := h
  unfold readValue? at h
  split at h
  case h_6 us _ =>
    simp only [Option.bind_eq_bind, Option.bind_eq_some_iff] at h
    obtain ⟨⟨⟨items, us'⟩, hus⟩, hitems, h⟩ := h
    cases h
    exact .inr (.inl ⟨us, items, rfl, rfl, hus, hitems⟩)
  case h_8 us _ =>
    simp only [Option.bind_eq_bind, Option.bind_eq_some_iff] at h
    obtain ⟨⟨⟨members, us'⟩, hus⟩, hmembers, h⟩ := h
    cases h
    exact .inr (.inr ⟨us, members, rfl, rfl, hus, hmembers⟩)
  case h_9 => cases h
  all_goals
    cases h
    exact .inl rfl

theorem of_finds_items (h : Finds readItems? ts items rest) :
    ∃ item us, Finds readValue? ts item us ∧
      (items = [item] ∧ us = .closeArray :: rest ∨
        ∃ us' tail, items = item :: tail ∧ us = .comma :: us' ∧
          Finds readItems? us' tail rest) := by
  obtain ⟨hlt, h⟩ := h
  unfold readItems? at h
  simp only [Option.bind_eq_bind, Option.bind_eq_some_iff] at h
  obtain ⟨⟨⟨item, us⟩, hus⟩, hitem, h⟩ := h
  refine ⟨item, us, ⟨hus, hitem⟩, ?_⟩
  dsimp only at h
  split at h
  · cases h
    exact .inl ⟨rfl, rfl⟩
  · rename_i us'
    simp only [Option.bind_eq_some_iff] at h
    obtain ⟨⟨⟨tail, us''⟩, hus'⟩, htail, h⟩ := h
    cases h
    exact .inr ⟨us', tail, rfl, rfl, hus', htail⟩
  · cases h

theorem of_finds_members (h : Finds readMembers? ts members rest) :
    ∃ name us value us', ts = .string name :: .colon :: us ∧ Finds readValue? us value us' ∧
      (members = [(name, value)] ∧ us' = .closeObject :: rest ∨
        ∃ us'' tail, members = (name, value) :: tail ∧ us' = .comma :: us'' ∧
          Finds readMembers? us'' tail rest) := by
  obtain ⟨hlt, h⟩ := h
  unfold readMembers? at h
  split at h
  · rename_i name us
    simp only [Option.bind_eq_bind, Option.bind_eq_some_iff] at h
    obtain ⟨⟨⟨value, us'⟩, hus⟩, hvalue, h⟩ := h
    refine ⟨name, us, value, us', rfl, ⟨hus, hvalue⟩, ?_⟩
    dsimp only at h
    split at h
    · cases h
      exact .inl ⟨rfl, rfl⟩
    · rename_i us''
      simp only [Option.bind_eq_some_iff] at h
      obtain ⟨⟨⟨tail, us'''⟩, hus'⟩, htail, h⟩ := h
      cases h
      exact .inr ⟨us'', tail, rfl, rfl, hus', htail⟩
    · cases h
  · cases h

mutual

theorem eq_tokens {ts rest : List Token} {v : Json} (h : Finds readValue? ts v rest) :
    ts = v.tokens ++ rest := by
  obtain h | ⟨us, items, hts, rfl, hitems⟩ | ⟨us, members, hts, rfl, hmembers⟩ := of_finds_value h
  · exact h
  · have hshort : us.length < ts.length := by simp [hts]
    obtain ⟨item, tail, rfl, rfl⟩ := eq_itemsTail hitems
    simp [hts, tokens]
  · have hshort : us.length < ts.length := by simp [hts]
    obtain ⟨name, value, tail, rfl, rfl⟩ := eq_membersTail hmembers
    simp [hts, tokens]
termination_by (ts.length, 0)

theorem eq_itemsTail {ts rest : List Token} {items : List Json}
    (h : Finds readItems? ts items rest) :
    ∃ item tail, items = item :: tail ∧ ts = item.tokens ++ (itemsTail tail ++ rest) := by
  obtain ⟨item, us, hitem, hrest⟩ := of_finds_items h
  have hts := eq_tokens hitem
  obtain ⟨rfl, rfl⟩ | ⟨us', tail, rfl, rfl, htail⟩ := hrest
  · exact ⟨item, [], rfl, hts⟩
  · have hshort : us'.length < ts.length := Nat.lt_of_succ_lt hitem.1
    obtain ⟨next, tail, rfl, rfl⟩ := eq_itemsTail htail
    exact ⟨item, next :: tail, rfl, by simp [hts, itemsTail]⟩
termination_by (ts.length, 1)

theorem eq_membersTail {ts rest : List Token} {members : List (List Nat × Json)}
    (h : Finds readMembers? ts members rest) :
    ∃ name value tail, members = (name, value) :: tail ∧
      ts = .string name :: .colon :: (value.tokens ++ (membersTail tail ++ rest)) := by
  obtain ⟨name, us, value, us', hts, hvalue, hrest⟩ := of_finds_members h
  have hshort : us.length < ts.length := by
    simp only [hts, List.length_cons]
    omega
  have hus := eq_tokens hvalue
  obtain ⟨rfl, rfl⟩ | ⟨us'', tail, rfl, rfl, htail⟩ := hrest
  · exact ⟨name, value, [], rfl, by rw [hts, hus]; rfl⟩
  · have hshort' : us''.length < ts.length := Nat.lt_trans (Nat.lt_of_succ_lt hvalue.1) hshort
    obtain ⟨next, nextValue, tail, rfl, rfl⟩ := eq_membersTail htail
    exact ⟨name, value, (next, nextValue) :: tail, rfl, by simp [hts, hus, membersTail]⟩
termination_by (ts.length, 1)

end

/-- A text is read as a value if its tokens are those of the value. -/
theorem read?_eq_some_iff_tokens {s : List Char} {v : Json} :
    read? s = some v ↔ tokens? s = some v.tokens := by
  refine ⟨fun h => ?_, read?_of_tokens⟩
  simp only [read?, Option.bind_eq_bind, Option.bind_eq_some_iff] at h
  obtain ⟨ts, hts, ⟨⟨value, rest⟩, hlt⟩, hvalue, h⟩ := h
  dsimp only at h
  split at h
  · rename_i hrest
    cases h
    rw [hts, eq_tokens ⟨hlt, hvalue⟩, List.isEmpty_iff.mp hrest, List.append_nil]
  · cases h

/-! ## Texts of values -/

theorem Apart.cons (ht : t.isWord = false) (h : Apart ts) : Apart (t :: ts) :=
  List.isChain_cons.mpr ⟨fun _ _ => .inl ht, h⟩

mutual

theorem apart_tokens (v : Json) {rest : List Token} (h : Apart rest)
    (hrest : ∀ t ∈ rest.head?, t.isWord = false) : Apart (v.tokens ++ rest) := by
  match v with
  | null | bool _ | number _ => exact List.isChain_cons.mpr ⟨fun t ht => .inr (hrest t ht), h⟩
  | string _ => exact .cons rfl h
  | array [] | object [] => exact .cons rfl (.cons rfl h)
  | array (item :: items) =>
      simp only [tokens, List.cons_append, List.append_assoc]
      exact .cons rfl (apart_tokens item (apart_itemsTail items h) (head_itemsTail items rest))
  | object ((name, value) :: members) =>
      simp only [tokens, List.cons_append, List.append_assoc]
      exact .cons rfl (.cons rfl (.cons rfl
        (apart_tokens value (apart_membersTail members h) (head_membersTail members rest))))

theorem apart_itemsTail (items : List Json) {rest : List Token} (h : Apart rest) :
    Apart (itemsTail items ++ rest) := by
  match items with
  | [] => exact .cons rfl h
  | item :: items =>
      simp only [itemsTail, List.cons_append, List.append_assoc]
      exact .cons rfl (apart_tokens item (apart_itemsTail items h) (head_itemsTail items rest))

theorem apart_membersTail (members : List (List Nat × Json)) {rest : List Token}
    (h : Apart rest) : Apart (membersTail members ++ rest) := by
  match members with
  | [] => exact .cons rfl h
  | (name, value) :: members =>
      simp only [membersTail, List.cons_append, List.append_assoc]
      exact .cons rfl (.cons rfl (.cons rfl
        (apart_tokens value (apart_membersTail members h) (head_membersTail members rest))))

end

/-- A text is read as a value if and only if it consists of the tokens of the value. -/
theorem read?_eq_some_iff {s : List Char} {v : Json} : read? s = some v ↔ Renders s v.tokens := by
  have hapart : Apart v.tokens := by
    have h : Apart (v.tokens ++ []) := apart_tokens v .nil nofun
    rwa [List.append_nil] at h
  rw [read?_eq_some_iff_tokens]
  exact ⟨.of_tokens?, fun h => h.tokens? hapart⟩

end SqlGateway.Json
