import Mathlib.Data.List.TakeWhile
import SqlGateway.Sql.Resolution

/-!
# Placeholders of a text

A text falls into placeholders and characters between them in one way only. Which binding a
placeholder gets, what is written for it and which values it takes is said here of each piece alone;
resolving a text is doing that piece by piece.
-/

namespace SqlGateway.Sql

open Text

/-! ## Splitting -/

/-- The pieces of a text. A placeholder is a colon with as many word characters as follow it, and
there is no colon outside placeholders. -/
inductive Splits : List Char → List Piece → Prop
  | nil : Splits [] []
  | plain {c : Char} {s : List Char} {ps : List Piece} (hc : c ≠ ':') (h : Splits s ps) :
      Splits (c :: s) (.plain c :: ps)
  | placeholder {word s : List Char} {ps : List Piece} (hword : ∀ c ∈ word, isWord c = true)
      (hend : ∀ c ∈ s.head?, isWord c = false) (h : Splits s ps) :
      Splits (':' :: (word ++ s)) (.placeholder word :: ps)

theorem splits_pieces (s : List Char) : Splits s (pieces s) := by
  fun_induction pieces s with
  | case1 => exact .nil
  | case2 s ih =>
      have hword : ∀ c ∈ s.takeWhile isWord, isWord c = true := fun c => List.mem_takeWhile_imp
      have hend : ∀ c ∈ (s.dropWhile isWord).head?, isWord c = false := fun c hc => by
        have := List.head?_dropWhile_not isWord s
        simpa [Option.mem_def.mp hc] using this
      have h := ih.placeholder hword hend
      rwa [List.takeWhile_append_dropWhile] at h
  | case3 c s hc ih => exact .plain hc ih

theorem Splits.eq_pieces {s : List Char} {ps : List Piece} (h : Splits s ps) : ps = pieces s := by
  induction h with
  | nil => simp [pieces]
  | plain hc h ih => rw [pieces, if_neg hc, ih]
  | @placeholder word s ps hword hend h ih =>
      have htake : s.takeWhile isWord = [] := by cases s <;> simp_all
      have hdrop : s.dropWhile isWord = s := by cases s <;> simp_all
      rw [pieces, if_pos rfl, List.takeWhile_append_of_pos hword,
        List.dropWhile_append_of_pos hword, htake, hdrop, List.append_nil, ih]

theorem Splits.flatMap_text {s : List Char} {ps : List Piece} (h : Splits s ps) :
    ps.flatMap Piece.text = s := by
  rw [h.eq_pieces, flatMap_text_pieces]

theorem Splits.isWord {s : List Char} {ps : List Piece} (h : Splits s ps) {word : List Char}
    (hw : .placeholder word ∈ ps) : ∀ c ∈ word, isWord c = true := by
  induction h with
  | nil => simp at hw
  | plain hc h ih => exact ih (by simpa using hw)
  | placeholder hword hend h ih =>
      rcases List.mem_cons.mp hw with heq | hw
      · cases heq
        exact hword
      · exact ih hw

/-! ## Bindings -/

variable {α : Type} (bindings : Bindings α)

/-- What a name in canonical form is bound to: the first binding of that name. -/
def firstBound (name : String) : Option (Binding α) :=
  (bindings.find? fun entry => canonicalName entry.1 == name).map (·.2)

/-- What a placeholder is bound to, given its word. -/
def boundTo (word : List Char) : Option (Binding α) :=
  firstBound bindings (.ofList (':' :: word))

variable {bindings}

theorem firstBound_cons (entry : String × Binding α) (name : String) :
    firstBound (entry :: bindings) name =
      if canonicalName entry.1 == name then some entry.2 else firstBound bindings name := by
  unfold firstBound
  rw [List.find?_cons]
  split <;> simp_all

theorem firstBound_eq_none_iff {name : String} : firstBound bindings name = none ↔
    ∀ entry ∈ bindings, canonicalName entry.1 ≠ name := by
  simp [firstBound]

/-- The check of one binding against those already known. -/
def addBinding [BEq α] (known : Bindings α) (entry : String × Binding α) :
    Except Misuse (Bindings α) :=
  let name := canonicalName entry.1
  if entry.2.isEmpty then .error (.emptyBinding name)
  else match known.lookup name with
    | some first => if first == entry.2 then .ok known else .error (.ambiguousBinding name)
    | none => .ok (known ++ [(name, entry.2)])

theorem canonicalBindings_eq [BEq α] (bindings : Bindings α) :
    canonicalBindings bindings = bindings.foldlM addBinding [] :=
  rfl

/-- A binding that passes its check has a value, and its name is known afterwards. -/
theorem addBinding_ok [BEq α] {known known' : Bindings α} {entry : String × Binding α}
    (h : addBinding known entry = .ok known') :
    entry.2.isEmpty = false ∧ ∀ name, known'.lookup name = (known.lookup name).or
      (if canonicalName entry.1 == name then some entry.2 else none) := by
  simp only [addBinding] at h
  split at h
  · cases h
  · rename_i hne
    refine ⟨by simpa using hne, fun name => ?_⟩
    split at h
    · rename_i first hfirst
      split at h
      · cases h
        by_cases hname : canonicalName entry.1 = name
        · subst hname
          simp [hfirst]
        · simp [hname]
      · cases h
    · cases h
      rw [List.lookup_append]
      by_cases hname : canonicalName entry.1 = name
      · subst hname
        simp
      · have : (name == canonicalName entry.1) = false := by simpa using Ne.symm hname
        simp [hname, List.lookup_cons, this]

theorem foldlM_addBinding_ok [BEq α] {first known : Bindings α}
    (h : bindings.foldlM addBinding first = .ok known) :
    (∀ entry ∈ bindings, entry.2.isEmpty = false) ∧
      ∀ name, known.lookup name = (first.lookup name).or (firstBound bindings name) := by
  induction bindings generalizing first with
  | nil =>
      cases h
      simp [firstBound]
  | cons entry bindings ih =>
      rw [List.foldlM_cons] at h
      cases hadd : addBinding first entry with
      | error e => simp [hadd, bind, Except.bind] at h
      | ok next =>
          rw [hadd] at h
          obtain ⟨hne, hlookup⟩ := addBinding_ok hadd
          obtain ⟨hrest, hfold⟩ := ih h
          refine ⟨List.forall_mem_cons.mpr ⟨hne, hrest⟩, fun name => ?_⟩
          rw [hfold, hlookup, firstBound_cons, Option.or_assoc]
          split <;> simp

theorem lookup_canonicalBindings [BEq α] {known : Bindings α}
    (h : canonicalBindings bindings = .ok known) (name : String) :
    known.lookup name = firstBound bindings name := by
  rw [canonicalBindings_eq] at h
  simpa using (foldlM_addBinding_ok h).2 name

/-- Whatever a placeholder is bound to has a value. -/
def Filled (bindings : Bindings α) : Prop :=
  ∀ word binding, boundTo bindings word = some binding → 0 < binding.values.length

theorem filled_of_canonicalBindings [BEq α] {known : Bindings α}
    (h : canonicalBindings bindings = .ok known) : Filled bindings := by
  intro word binding hbound
  rw [canonicalBindings_eq] at h
  obtain ⟨entry, hentry, rfl⟩ := Option.map_eq_some_iff.mp hbound
  have := (foldlM_addBinding_ok h).1 entry (List.mem_of_find?_eq_some hentry)
  simpa [Binding.isEmpty, List.length_pos_iff] using this

/-! ## What is written and taken -/

/-- As many question marks as there are values, with a comma and a space between two. -/
def marks (count : Nat) : List Char :=
  [',', ' '].intercalate (List.replicate count ['?'])

theorem marks_one : marks 1 = ['?'] := rfl

theorem marks_add_two (n : Nat) : marks (n + 2) = '?' :: ',' :: ' ' :: marks (n + 1) := by
  simp [marks, List.replicate_succ]

theorem marks_of_pos {n : Nat} (hn : 0 < n) : ∃ rest, marks n = '?' :: rest := by
  match n with
  | 1 => exact ⟨[], marks_one⟩
  | n + 2 => exact ⟨_, marks_add_two n⟩

theorem mem_marks {n : Nat} {c : Char} (h : c ∈ marks n) : c = '?' ∨ c = ',' ∨ c = ' ' := by
  induction n using questionMarks.induct with
  | case1 => cases h
  | case2 => simp_all [marks_one]
  | case3 n hn ih =>
      obtain ⟨m, rfl⟩ := Nat.exists_eq_succ_of_ne_zero hn
      simp only [marks_add_two, List.mem_cons] at h
      rcases h with h | h | h | h
      · exact .inl h
      · exact .inr (.inl h)
      · exact .inr (.inr h)
      · exact ih h

theorem questionMarks_eq_marks (count : Nat) : questionMarks count = marks count := by
  induction count using questionMarks.induct with
  | case1 => rfl
  | case2 => rfl
  | case3 n hn ih =>
      obtain ⟨m, rfl⟩ := Nat.exists_eq_succ_of_ne_zero hn
      rw [marks_add_two, ← ih]
      rfl

variable (bindings)

/-- What stands in the resolved text for a piece. -/
def written : Piece → List Char
  | .plain c => [c]
  | .placeholder word =>
    match boundTo bindings word with
    | some binding => marks binding.values.length
    | none => ':' :: word

/-- The values that a piece takes. -/
def taken : Piece → List α
  | .plain _ => []
  | .placeholder word =>
    match boundTo bindings word with
    | some binding => binding.values
    | none => []

variable {bindings}

theorem substitute_eq [BEq α] {known : Bindings α} (h : canonicalBindings bindings = .ok known)
    (p : Piece) : substitute known p = (written bindings p, taken bindings p) := by
  cases p with
  | plain c => rfl
  | placeholder word =>
      simp only [substitute, written, taken, boundTo, lookup_canonicalBindings h]
      cases firstBound bindings (.ofList (':' :: word)) with
      | none => rfl
      | some binding => simp only [questionMarks_eq_marks]

theorem resolve_eq_ok_iff [BEq α] {sql : String} {r : Resolved α} :
    resolve sql bindings = .ok r ↔ (∃ known, canonicalBindings bindings = .ok known) ∧
      r.sql.toList = (pieces sql.toList).flatMap (written bindings) ∧
      r.values = (pieces sql.toList).flatMap (taken bindings) := by
  unfold resolve
  cases h : canonicalBindings bindings with
  | error e => simp
  | ok known =>
      have hparts : (pieces sql.toList).map (substitute known) =
          (pieces sql.toList).map fun p => (written bindings p, taken bindings p) :=
        List.map_congr_left fun p _ => substitute_eq h p
      cases r with
      | mk out values =>
          simp only [hparts, List.flatMap_map, Except.ok.injEq, Resolved.mk.injEq]
          constructor
          · rintro ⟨rfl, rfl⟩
            exact ⟨⟨known, rfl⟩, by simp, rfl⟩
          · rintro ⟨-, hout, rfl⟩
            exact ⟨by rw [← hout, String.ofList_toList], rfl⟩

/-! ## Pieces of the resolved text -/

variable (bindings)

/-- The pieces of the resolved text that a piece becomes. -/
def rewritten : Piece → List Piece
  | .plain c => [.plain c]
  | .placeholder word =>
    match boundTo bindings word with
    | some binding => (marks binding.values.length).map .plain
    | none => [.placeholder word]

variable {bindings}

theorem written_of_bound {word : List Char} {binding : Binding α}
    (h : boundTo bindings word = some binding) :
    written bindings (.placeholder word) = marks binding.values.length := by
  simp [written, h]

theorem written_of_unbound {word : List Char} (h : boundTo bindings word = none) :
    written bindings (.placeholder word) = ':' :: word := by
  simp [written, h]

theorem placeholder_mem_rewritten {word : List Char} {p : Piece}
    (h : .placeholder word ∈ rewritten bindings p) :
    p = .placeholder word ∧ boundTo bindings word = none := by
  cases p with
  | plain c => simp [rewritten] at h
  | placeholder word' =>
      cases hbound : boundTo bindings word' with
      | some binding => simp [rewritten, hbound] at h
      | none =>
          simp only [rewritten, hbound, List.mem_singleton, Piece.placeholder.injEq] at h
          subst h
          exact ⟨rfl, hbound⟩

theorem Splits.plains {s t : List Char} {ps : List Piece} (hs : ∀ c ∈ s, c ≠ ':')
    (h : Splits t ps) : Splits (s ++ t) (s.map .plain ++ ps) := by
  induction s with
  | nil => exact h
  | cons c s ih =>
      obtain ⟨hc, hs⟩ := List.forall_mem_cons.mp hs
      exact .plain hc (ih hs)

/-- A resolved text starts as the text it was resolved from, or with a question mark. -/
theorem head_flatMap_written (hfilled : Filled bindings) {ps : List Piece} {c : Char}
    (h : c ∈ (ps.flatMap (written bindings)).head?) :
    c = '?' ∨ c ∈ (ps.flatMap Piece.text).head? := by
  cases ps with
  | nil => simp at h
  | cons p ps =>
      rw [List.flatMap_cons] at h ⊢
      cases p with
      | plain d => exact .inr h
      | placeholder word =>
          cases hbound : boundTo bindings word with
          | none =>
              rw [written_of_unbound hbound] at h
              exact .inr h
          | some binding =>
              obtain ⟨rest, hrest⟩ := marks_of_pos (hfilled _ _ hbound)
              rw [written_of_bound hbound, hrest] at h
              exact .inl (by simpa using h.symm)

/-- The placeholders of a resolved text are those that are not bound. What takes the place of the
others neither is part of a placeholder nor lengthens the one before it. -/
theorem Splits.rewritten (hfilled : Filled bindings) {s : List Char} {ps : List Piece}
    (h : Splits s ps) :
    Splits (ps.flatMap (written bindings)) (ps.flatMap (rewritten bindings)) := by
  induction h with
  | nil => exact .nil
  | plain hc h ih => exact .plain hc ih
  | @placeholder word s ps hword hend h ih =>
      cases hbound : boundTo bindings word with
      | some binding =>
          have hmarks : ∀ c ∈ marks binding.values.length, c ≠ ':' := fun c hc => by
            rcases mem_marks hc with rfl | rfl | rfl <;> decide
          simpa [written, Sql.rewritten, hbound] using ih.plains hmarks
      | none =>
          have hend : ∀ c ∈ (ps.flatMap (written bindings)).head?, Text.isWord c = false := by
            intro c hc
            rcases head_flatMap_written hfilled hc with rfl | hc
            · decide
            · exact hend c (h.flatMap_text ▸ hc)
          simpa [written, Sql.rewritten, hbound] using ih.placeholder hword hend

theorem mem_namedPlaceholders {sql name : String} : name ∈ namedPlaceholders sql ↔
    ∃ c word, .placeholder (c :: word) ∈ pieces sql.toList ∧
      name = .ofList (':' :: c :: word) := by
  simp only [namedPlaceholders, List.mem_filterMap]
  constructor
  · rintro ⟨p, hp, hname⟩
    split at hname
    · cases hname
      exact ⟨_, _, hp, rfl⟩
    · cases hname
  · rintro ⟨c, word, hp, rfl⟩
    exact ⟨_, hp, rfl⟩

end SqlGateway.Sql
