import Mathlib.Data.List.TakeWhile
import SqlGateway.Sql.Classification

/-!
# The grammar of procedure calls

The texts of procedure calls as a grammar, and that the reader takes exactly these. The grammar
leaves open what may stand between two segments of a name: the reader allows any character but a
line feed there, and so more than a dot.
-/

namespace SqlGateway.Sql

open Text

/-! ## Grammar -/

def Blanks (s : List Char) : Prop :=
  ∀ c ∈ s, isBlank c = true

instance (s : List Char) : Decidable (Blanks s) :=
  List.decidableBAll _ s

/-- The marker of a returned value, if there is one. -/
inductive Marker : List Char → Prop
  | absent : Marker []
  | present {a b : List Char} (ha : Blanks a) (hb : Blanks b) : Marker ('?' :: (a ++ '=' :: b))

/-- The word `call`, in small or capital letters. -/
def CallWord (s : List Char) : Prop :=
  s.map Char.toLower = ['c', 'a', 'l', 'l']

instance (s : List Char) : Decidable (CallWord s) :=
  inferInstanceAs (Decidable (s.map Char.toLower = ['c', 'a', 'l', 'l']))

structure Segment (s : List Char) : Prop where
  ne_nil : s ≠ []
  isWord : ∀ c ∈ s, isWord c = true

/-- A name of one segment and at most `more` others, with a character that `separates` between each
two of them. -/
inductive Name (separates : Char → Prop) : Nat → List Char → Prop
  | last {more : Nat} {w : List Char} (hw : Segment w) : Name separates more w
  | qualified {more : Nat} {w s : List Char} {c : Char} (hw : Segment w) (hc : separates c)
      (h : Name separates more s) : Name separates (more + 1) (w ++ c :: s)

/-- So many question marks, with a comma between each two and white space around each. -/
inductive Marks : Nat → List Char → Prop
  | none {a : List Char} (ha : Blanks a) : Marks 0 a
  | one {a b : List Char} (ha : Blanks a) (hb : Blanks b) : Marks 1 (a ++ '?' :: b)
  | more {n : Nat} {a b s : List Char} (ha : Blanks a) (hb : Blanks b) (h : Marks (n + 1) s) :
      Marks (n + 2) (a ++ '?' :: (b ++ ',' :: s))

/-- A list of question marks in parentheses, if there is one. -/
inductive Arguments : List Char → Prop
  | absent : Arguments []
  | listed {n : Nat} {a s : List Char} (ha : Blanks a) (h : Marks n s) :
      Arguments (a ++ '(' :: (s ++ [')']))

/-- A call without braces. -/
inductive BareCall (separates : Char → Prop) : List Char → Prop
  | intro {marker word gap name arguments : List Char} (hmarker : Marker marker)
      (hword : CallWord word) (hgap : Blanks gap) (hne : gap ≠ []) (hname : Name separates 2 name)
      (harguments : Arguments arguments) :
      BareCall separates (marker ++ (word ++ (gap ++ (name ++ arguments))))

/-- A procedure call whose name has characters that `separates` between its segments. -/
inductive CallForm (separates : Char → Prop) : List Char → Prop
  | bare {s : List Char} (h : BareCall separates s) : CallForm separates s
  | braced {a s b : List Char} (ha : Blanks a) (h : BareCall separates s) (hb : Blanks b) :
      CallForm separates ('{' :: (a ++ (s ++ (b ++ ['}']))))

variable {separates separates' : Char → Prop} {s t : List Char}

theorem Name.mono {n m : Nat} (hs : ∀ c, separates c → separates' c) (hnm : n ≤ m)
    (h : Name separates n s) : Name separates' m s := by
  induction h generalizing m with
  | last hw => exact .last hw
  | qualified hw hc h ih =>
      obtain ⟨m, rfl⟩ := Nat.exists_eq_add_of_le'
        (Nat.le_trans (Nat.succ_le_succ (Nat.zero_le _)) hnm)
      exact .qualified hw (hs _ hc) (ih (by omega))

theorem CallForm.mono (hs : ∀ c, separates c → separates' c) (h : CallForm separates s) :
    CallForm separates' s := by
  have body {s : List Char} (h : BareCall separates s) : BareCall separates' s := by
    obtain ⟨hmarker, hword, hgap, hne, hname, harguments⟩ := h
    exact ⟨hmarker, hword, hgap, hne, hname.mono hs (Nat.le_refl _), harguments⟩
  cases h with
  | bare h => exact .bare (body h)
  | braced ha h hb => exact .braced ha (body h) hb

/-! ## Characters -/

section Characters

variable {p : Char → Prop}

theorem Marker.forall_mem (hblank : ∀ c, isBlank c = true → p c) (hmark : ∀ c ∈ ['?', '='], p c)
    (h : Marker s) : ∀ c ∈ s, p c := by
  obtain ⟨hquestion, hequals, -⟩ : p '?' ∧ p '=' ∧ True := by simpa using hmark
  cases h with
  | absent => exact nofun
  | present ha hb =>
      simp only [List.forall_mem_cons, List.forall_mem_append]
      exact ⟨hquestion, fun c hc => hblank c (ha c hc), hequals, fun c hc => hblank c (hb c hc)⟩

theorem Name.forall_mem {n : Nat} (hword : ∀ c, isWord c = true → p c)
    (hseparates : ∀ c, separates c → p c) (h : Name separates n s) : ∀ c ∈ s, p c := by
  induction h with
  | last hw => exact fun c hc => hword c (hw.isWord c hc)
  | qualified hw hc _ ih =>
      simp only [List.forall_mem_cons, List.forall_mem_append]
      exact ⟨fun c hc => hword c (hw.isWord c hc), hseparates _ hc, ih⟩

theorem Marks.forall_mem {n : Nat} (hblank : ∀ c, isBlank c = true → p c)
    (hmark : ∀ c ∈ ['?', ','], p c) (h : Marks n s) : ∀ c ∈ s, p c := by
  have blanks {a : List Char} (ha : Blanks a) : ∀ c ∈ a, p c := fun c hc => hblank c (ha c hc)
  obtain ⟨hquestion, hcomma⟩ : p '?' ∧ p ',' := by simpa using hmark
  induction h with
  | none ha => exact blanks ha
  | one ha hb =>
      simp only [List.forall_mem_cons, List.forall_mem_append]
      exact ⟨blanks ha, hquestion, blanks hb⟩
  | more ha hb _ ih =>
      simp only [List.forall_mem_cons, List.forall_mem_append]
      exact ⟨blanks ha, hquestion, blanks hb, hcomma, ih⟩

theorem Arguments.forall_mem (hblank : ∀ c, isBlank c = true → p c)
    (hmark : ∀ c ∈ ['?', ',', '(', ')'], p c) (h : Arguments s) : ∀ c ∈ s, p c := by
  obtain ⟨hquestion, hcomma, hopen, hclose⟩ : p '?' ∧ p ',' ∧ p '(' ∧ p ')' := by simpa using hmark
  cases h with
  | absent => exact nofun
  | listed ha h =>
      have hlist := h.forall_mem hblank (by simp [hquestion, hcomma])
      simp only [List.forall_mem_cons, List.forall_mem_append]
      exact ⟨fun c hc => hblank c (ha c hc), hopen, hlist, hclose, nofun⟩

theorem CallForm.forall_mem (hword : ∀ c, isWord c = true → p c)
    (hblank : ∀ c, isBlank c = true → p c) (hletter : ∀ c : Char, c.toLower ∈ "call".toList → p c)
    (hmark : ∀ c ∈ ['?', '=', ',', '(', ')', '{', '}'], p c) (hseparates : ∀ c, separates c → p c)
    (h : CallForm separates s) : ∀ c ∈ s, p c := by
  have blanks {a : List Char} (ha : Blanks a) : ∀ c ∈ a, p c := fun c hc => hblank c (ha c hc)
  obtain ⟨hquestion, hequals, hcomma, hopen, hclose, hleft, hright⟩ :
      p '?' ∧ p '=' ∧ p ',' ∧ p '(' ∧ p ')' ∧ p '{' ∧ p '}' := by simpa using hmark
  have body {s : List Char} (h : BareCall separates s) : ∀ c ∈ s, p c := by
    obtain ⟨hmarker, hcall, hgap, -, hname, harguments⟩ := h
    simp only [List.forall_mem_append]
    refine ⟨hmarker.forall_mem hblank ?_, ?_, blanks hgap, hname.forall_mem hword hseparates,
      harguments.forall_mem hblank ?_⟩
    · simp [hquestion, hequals]
    · intro c hc
      have hlower := List.mem_map_of_mem (f := Char.toLower) hc
      rw [hcall] at hlower
      exact hletter c hlower
    · simp [hquestion, hcomma, hopen, hclose]
  cases h with
  | bare h => exact body h
  | braced ha h hb =>
      simp only [List.forall_mem_cons, List.forall_mem_append]
      exact ⟨hleft, blanks ha, body h, blanks hb, hright, nofun⟩

end Characters

/-! ## White space -/

theorem isWord_of_isBlank {c : Char} (h : isBlank c = true) : isWord c = false := by
  have blanks : ∀ n ∈ List.range' 0x9 5 ++ [0x20, 0x85, 0xA0, 0x1680] ++ List.range' 0x2000 11 ++
      [0x2028, 0x2029, 0x202F, 0x205F, 0x3000], isWord (.ofNat n) = false := by decide +kernel
  have hc : c.toNat ∈ List.range' 0x9 5 ++ [0x20, 0x85, 0xA0, 0x1680] ++ List.range' 0x2000 11 ++
      [0x2028, 0x2029, 0x202F, 0x205F, 0x3000] := by
    simp [isBlank, blankRanges, inRanges] at h
    simp
    omega
  rw [← Char.ofNat_toNat c]
  exact blanks _ hc

theorem blanks_takeWhile (s : List Char) : Blanks (s.takeWhile isBlank) :=
  fun _ => List.mem_takeWhile_imp

theorem trimStart_append {a : List Char} (ha : Blanks a) (hs : ∀ c ∈ s.head?, isBlank c = false) :
    trimStart (a ++ s) = s := by
  unfold trimStart
  rw [List.dropWhile_append_of_pos ha]
  cases s with
  | nil => rfl
  | cons c s => exact List.dropWhile_cons_of_neg (by simp [hs c rfl])

/-- What trimming takes away is white space. -/
theorem exists_blanks (s : List Char) : ∃ a, Blanks a ∧ s = a ++ trimStart s :=
  ⟨s.takeWhile isBlank, blanks_takeWhile s, (List.takeWhile_append_dropWhile).symm⟩

/-! ## What the reader takes -/

theorem exists_marker (s : List Char) : ∃ m, Marker m ∧ s = m ++ afterMarker s := by
  unfold afterMarker
  split
  · rename_i r
    obtain ⟨a, ha, hr⟩ := exists_blanks r
    split
    · rename_i r' hr'
      obtain ⟨b, hb, hr''⟩ := exists_blanks r'
      refine ⟨'?' :: (a ++ '=' :: b), .present ha hb, ?_⟩
      calc '?' :: r = '?' :: (a ++ '=' :: r') := by rw [← hr', ← hr]
        _ = '?' :: (a ++ '=' :: b) ++ trimStart r' := by simp [← hr'']
    · exact ⟨[], .absent, rfl⟩
  · exact ⟨[], .absent, rfl⟩

theorem exists_callWord (h : afterCall s = some t) :
    ∃ word gap, CallWord word ∧ Blanks gap ∧ gap ≠ [] ∧ s = word ++ (gap ++ t) := by
  unfold afterCall at h
  split at h
  · rename_i c a l l' b r
    split at h
    · rename_i hword
      cases h
      obtain ⟨hcall, hb⟩ := Bool.and_eq_true_iff.mp hword
      have hcall : CallWord [c, a, l, l'] := by simpa [CallWord] using hcall
      obtain ⟨gap, hgap, hr⟩ := exists_blanks r
      have hgap : Blanks (b :: gap) := List.forall_mem_cons.mpr ⟨hb, hgap⟩
      refine ⟨[c, a, l, l'], b :: gap, hcall, hgap, nofun, ?_⟩
      exact congrArg (fun r => c :: a :: l :: l' :: b :: r) hr
    · cases h
  · cases h

theorem exists_segment (h : afterSegment s = some t) : ∃ w, Segment w ∧ s = w ++ t := by
  unfold afterSegment at h
  split at h
  · rename_i c s
    split at h
    · rename_i hc
      cases h
      refine ⟨c :: s.takeWhile isWord, ⟨nofun, ?_⟩, ?_⟩
      · exact List.forall_mem_cons.mpr ⟨hc, fun _ => List.mem_takeWhile_imp⟩
      · rw [List.cons_append, List.takeWhile_append_dropWhile]
    · cases h
  · cases h

theorem exists_name {n : Nat} (h : afterName n s = some t) :
    ∃ w, Name (· ≠ '\n') n w ∧ s = w ++ t := by
  induction n generalizing s t with
  | zero =>
      obtain ⟨w, hw, rfl⟩ := exists_segment h
      exact ⟨w, .last hw, rfl⟩
  | succ n ih =>
      unfold afterName at h
      obtain ⟨rest, hrest, hmore⟩ := Option.bind_eq_some_iff.mp h
      clear h
      obtain ⟨w, hw, rfl⟩ := exists_segment hrest
      split at hmore
      · rename_i c r
        split at hmore
        · cases hmore
          exact ⟨w, .last hw, rfl⟩
        · rename_i hc
          cases hname : afterName n r with
          | none =>
              rw [hname] at hmore
              cases hmore
              exact ⟨w, .last hw, rfl⟩
          | some t' =>
              rw [hname] at hmore
              cases hmore
              obtain ⟨w', hw', rfl⟩ := ih hname
              exact ⟨w ++ c :: w', .qualified hw hc hw', by simp⟩
      · cases hmore
        exact ⟨w, .last hw, rfl⟩

/-- What may stand between a place in a list of question marks and the parenthesis that closes
it. -/
def ListEnd : ListPosition → List Char → Prop
  | .start, s => ∃ n, Marks n s
  | .afterMark, s => Blanks s ∨ ∃ b n r, Blanks b ∧ Marks (n + 1) r ∧ s = b ++ ',' :: r
  | .afterComma, s => ∃ n, Marks (n + 1) s

theorem ListEnd.cons_blank {position : ListPosition} {c : Char} (hc : isBlank c = true)
    (h : ListEnd position s) : ListEnd position (c :: s) := by
  have cons {a : List Char} (ha : Blanks a) : Blanks (c :: a) := List.forall_mem_cons.mpr ⟨hc, ha⟩
  have marks {n : Nat} {s : List Char} (h : Marks n s) : Marks n (c :: s) := by
    cases h with
    | none ha => exact .none (cons ha)
    | one ha hb => exact .one (cons ha) hb
    | more ha hb h => exact .more (cons ha) hb h
  cases position with
  | start =>
      obtain ⟨n, h⟩ := h
      exact ⟨n, marks h⟩
  | afterMark =>
      rcases h with h | ⟨b, n, r, hb, hr, rfl⟩
      · exact .inl (cons h)
      · exact .inr ⟨c :: b, n, r, cons hb, hr, rfl⟩
  | afterComma =>
      obtain ⟨n, h⟩ := h
      exact ⟨n, marks h⟩

theorem marks_cons_mark (h : ListEnd .afterMark s) : ∃ n, Marks (n + 1) ('?' :: s) := by
  have hnil : Blanks [] := nofun
  rcases h with h | ⟨b, n, r, hb, hr, rfl⟩
  · exact ⟨0, .one hnil h⟩
  · exact ⟨n + 1, .more hnil hb hr⟩

theorem exists_listEnd {position : ListPosition} (h : afterMarks position s = some t) :
    ∃ r, ListEnd position r ∧ s = r ++ ')' :: t := by
  have hnil : Blanks [] := nofun
  fun_induction afterMarks position s with
  | case1 => cases h
  | case2 position c s hc ih =>
      obtain ⟨r, hr, rfl⟩ := ih h
      exact ⟨c :: r, hr.cons_blank hc, rfl⟩
  | case3 s =>
      cases h
      exact ⟨[], ⟨0, .none hnil⟩, rfl⟩
  | case4 s =>
      cases h
      exact ⟨[], .inl hnil, rfl⟩
  | case5 s hc ih =>
      obtain ⟨r, hr, rfl⟩ := ih h
      obtain ⟨n, hmarks⟩ := marks_cons_mark hr
      exact ⟨'?' :: r, ⟨n + 1, hmarks⟩, rfl⟩
  | case6 s hc ih =>
      obtain ⟨r, hr, rfl⟩ := ih h
      exact ⟨'?' :: r, marks_cons_mark hr, rfl⟩
  | case7 s hc ih =>
      obtain ⟨r, ⟨n, hr⟩, rfl⟩ := ih h
      exact ⟨',' :: r, .inr ⟨[], n, r, hnil, hr, rfl⟩, rfl⟩
  | case8 => cases h

theorem exists_arguments (h : afterArguments s = some t) : ∃ a, Arguments a ∧ s = a ++ t := by
  obtain ⟨a, ha, hs⟩ := exists_blanks s
  unfold afterArguments at h
  split at h
  · rename_i r hr
    obtain ⟨list, ⟨n, hlist⟩, rfl⟩ := exists_listEnd h
    refine ⟨a ++ '(' :: (list ++ [')']), .listed ha hlist, ?_⟩
    rw [hr] at hs
    simp [hs]
  · cases h

/-- A list of question marks may follow the object, or it may not. -/
theorem exists_bareCall {rest : List Char} (h : afterObject s = some rest)
    (ht : t = rest ∨ afterArguments rest = some t) :
    ∃ body, BareCall (· ≠ '\n') body ∧ s = body ++ t := by
  obtain ⟨u, hcall, hname⟩ := Option.bind_eq_some_iff.mp h
  obtain ⟨marker, hmarker, hs⟩ := exists_marker s
  obtain ⟨word, gap, hword, hgap, hne, hafter⟩ := exists_callWord hcall
  obtain ⟨name, hgrammar, rfl⟩ := exists_name hname
  have harguments : ∃ a, Arguments a ∧ rest = a ++ t := by
    rcases ht with rfl | ht
    · exact ⟨[], .absent, rfl⟩
    · exact exists_arguments ht
  obtain ⟨arguments, harguments, rfl⟩ := harguments
  refine ⟨_, .intro hmarker hword hgap hne hgrammar harguments, ?_⟩
  rw [hs, hafter]
  simp

/-- What the reader accepts is a call, with any characters but line feeds between segments. -/
theorem callForm_of_isCallForm (h : isCallForm s = true) : CallForm (· ≠ '\n') s := by
  unfold isCallForm at h
  split at h
  · rename_i r
    obtain ⟨a, ha, hr⟩ := exists_blanks r
    obtain ⟨rest, hobject, h⟩ := (Option.any_eq_true _ _).mp h
    -- with or without a list of question marks, white space and the brace are left
    have hclosed : ∃ t, (t = rest ∨ afterArguments rest = some t) ∧ trimStart t = ['}'] := by
      rcases Bool.or_eq_true_iff.mp h with h | h
      · exact ⟨rest, .inl rfl, beq_iff_eq.mp h⟩
      · obtain ⟨t, ht, h⟩ := (Option.any_eq_true _ _).mp h
        exact ⟨t, .inr ht, beq_iff_eq.mp h⟩
    obtain ⟨t, ht, htrim⟩ := hclosed
    obtain ⟨body, hbody, hbrace⟩ := exists_bareCall hobject ht
    obtain ⟨b, hb, hrest⟩ := exists_blanks t
    rw [hr, hbrace, hrest, htrim]
    exact .braced ha hbody hb
  · obtain ⟨rest, hobject, h⟩ := (Option.any_eq_true _ _).mp h
    have hended : [] = rest ∨ afterArguments rest = some [] := by
      rcases Bool.or_eq_true_iff.mp h with h | h
      · exact .inl (List.isEmpty_iff.mp h).symm
      · obtain ⟨t, ht, h⟩ := (Option.any_eq_true _ _).mp h
        exact .inr (List.isEmpty_iff.mp h ▸ ht)
    obtain ⟨body, hbody, rfl⟩ := exists_bareCall hobject hended
    rw [List.append_nil]
    exact .bare hbody

/-! ## What the reader does with a call -/

theorem eq_of_toLower {c : Char} (h : c.toLower = 'c') : c = 'c' ∨ c = 'C' := by
  unfold Char.toLower at h
  split at h
  · right
    have hval : c.val + ('a'.val - 'A'.val) = 'C'.val + ('a'.val - 'A'.val) := congrArg Char.val h
    exact Char.ext ((UInt32.add_left_inj _).mp hval)
  · exact .inl h

theorem CallWord.exists_letters (h : CallWord s) :
    ∃ c a l l', s = [c, a, l, l'] ∧ (c = 'c' ∨ c = 'C') := by
  unfold CallWord at h
  rcases s with _ | ⟨c, _ | ⟨a, _ | ⟨l, _ | ⟨l', _ | _⟩⟩⟩⟩ <;> simp at h
  exact ⟨c, a, l, l', rfl, eq_of_toLower h.1⟩

theorem afterMarker_append (h : Marker s) (ht : ∀ c ∈ t.head?, isBlank c = false ∧ c ≠ '?') :
    afterMarker (s ++ t) = t := by
  cases h with
  | absent =>
      unfold afterMarker
      split
      · rename_i r hr
        rw [List.nil_append] at hr
        exact absurd rfl (ht '?' (hr ▸ rfl)).2
      · rfl
  | @present a b ha hb =>
      have hequals : trimStart (a ++ '=' :: (b ++ t)) = '=' :: (b ++ t) :=
        trimStart_append ha (by simp; decide)
      have hafter : trimStart (b ++ t) = t := trimStart_append hb fun c hc => (ht c hc).1
      simp [afterMarker, hequals, hafter]

theorem afterCall_append {gap : List Char} (h : CallWord s) (hgap : Blanks gap) (hne : gap ≠ [])
    (ht : ∀ c ∈ t.head?, isBlank c = false) : afterCall (s ++ (gap ++ t)) = some t := by
  obtain ⟨c, a, l, l', rfl, -⟩ := h.exists_letters
  cases gap with
  | nil => exact absurd rfl hne
  | cons b gap =>
      obtain ⟨hb, hgap⟩ := List.forall_mem_cons.mp hgap
      have hafter := trimStart_append hgap ht
      have hword : [c, a, l, l'].map Char.toLower = ['c', 'a', 'l', 'l'] := h
      simp only [List.cons_append, List.nil_append, afterCall, hword, hb, hafter, decide_true,
        Bool.and_self, if_true]

theorem afterSegment_append (h : Segment s) (ht : ∀ c ∈ t.head?, isWord c = false) :
    afterSegment (s ++ t) = some t := by
  obtain ⟨hne, hword⟩ := h
  cases s with
  | nil => exact absurd rfl hne
  | cons c s =>
      obtain ⟨hc, hs⟩ := List.forall_mem_cons.mp hword
      rw [List.cons_append, afterSegment, if_pos hc, List.dropWhile_append_of_pos hs]
      cases t with
      | nil => rfl
      | cons d t => rw [List.dropWhile_cons_of_neg (by simp [ht d rfl])]

theorem afterSegment_of_word {c : Char} (h : Segment s) (hc : isWord c = true) :
    afterSegment (s ++ c :: t) = afterSegment (c :: t) := by
  obtain ⟨hne, hword⟩ := h
  cases s with
  | nil => exact absurd rfl hne
  | cons d s =>
      obtain ⟨hd, hs⟩ := List.forall_mem_cons.mp hword
      rw [List.cons_append, afterSegment, if_pos hd, List.dropWhile_append_of_pos hs, afterSegment,
        if_pos hc, List.dropWhile_cons_of_pos hc]

theorem afterName_eq_none {m : Nat} (h : ∀ c ∈ s.head?, isWord c = false) :
    afterName m s = none := by
  have hsegment : afterSegment s = none := by
    cases s with
    | nil => rfl
    | cons c s => simp [afterSegment, h c rfl]
  cases m with
  | zero => exact hsegment
  | succ m =>
      unfold afterName
      rw [hsegment]
      rfl

/-- Only where a segment ends is of account. -/
theorem afterName_congr {m : Nat} (h : afterSegment s = afterSegment t) :
    afterName m s = afterName m t := by
  cases m with
  | zero => exact h
  | succ m =>
      unfold afterName
      rw [h]

theorem Name.exists_cons {n : Nat} (h : Name separates n s) :
    ∃ c r, s = c :: r ∧ Text.isWord c = true := by
  have head {w : List Char} (hw : Segment w) : ∃ c r, w = c :: r ∧ Text.isWord c = true := by
    obtain ⟨c, r, rfl⟩ := List.exists_cons_of_ne_nil hw.ne_nil
    exact ⟨c, r, rfl, hw.isWord c List.mem_cons_self⟩
  cases h with
  | last hw => exact head hw
  | qualified hw hc h =>
      obtain ⟨c, r, rfl, hc⟩ := head hw
      exact ⟨c, _, rfl, hc⟩

/-- A name is read to its end, if there is no word character after it. A character between two
segments that is itself one joins them, and so leaves room for more segments. -/
theorem afterName_append {n m : Nat} (h : Name (· ≠ '\n') n s) (hnm : n ≤ m)
    (ht : ∀ c ∈ t, isWord c = false) : afterName m (s ++ t) = some t := by
  have hhead : ∀ c ∈ t.head?, isWord c = false := fun c hc => ht c (List.mem_of_head? hc)
  induction h generalizing m with
  | @last more w hw =>
      have hsegment := afterSegment_append hw hhead
      cases m with
      | zero => exact hsegment
      | succ m =>
          unfold afterName
          rw [hsegment]
          cases t with
          | nil => rfl
          | cons c t =>
              have hnone : afterName m t = none :=
                afterName_eq_none fun d hd => ht d (List.mem_cons_of_mem _ (List.mem_of_head? hd))
              change (if c = '\n' then some (c :: t) else some ((afterName m t).getD (c :: t))) = _
              rw [hnone]
              exact ite_self _
  | @qualified more w s c hw hc h ih =>
      rw [List.append_assoc]
      by_cases hword : isWord c = true
      · obtain ⟨d, r, rfl, hd⟩ := h.exists_cons
        have hjoined : Segment (w ++ [c]) := by
          refine ⟨by simp, fun x hx => ?_⟩
          rcases List.mem_append.mp hx with hx | hx
          · exact hw.isWord x hx
          · rw [List.mem_singleton.mp hx]
            exact hword
        have hcongr := afterSegment_of_word (t := r ++ t) hjoined hd
        rw [List.append_assoc] at hcongr
        exact (afterName_congr hcongr).trans (ih (Nat.le_of_succ_le hnm))
      · obtain ⟨m, rfl⟩ := Nat.exists_eq_add_of_le' (Nat.le_trans (Nat.succ_pos _) hnm)
        have hsegment : afterSegment (w ++ c :: (s ++ t)) = some (c :: (s ++ t)) :=
          afterSegment_append hw (by simpa using hword)
        have hrest : afterName m (s ++ t) = some t := ih (Nat.le_of_succ_le_succ hnm)
        unfold afterName
        rw [List.cons_append, hsegment]
        change (if c = '\n' then some (c :: (s ++ t)) else
          some ((afterName m (s ++ t)).getD (c :: (s ++ t)))) = _
        rw [if_neg hc, hrest]
        rfl

theorem afterMarks_blanks {position : ListPosition} (hs : Blanks s) :
    afterMarks position (s ++ t) = afterMarks position t := by
  induction s with
  | nil => rfl
  | cons c s ih =>
      obtain ⟨hc, hs⟩ := List.forall_mem_cons.mp hs
      have hskip : afterMarks position (c :: (s ++ t)) = afterMarks position (s ++ t) :=
        (afterMarks.eq_def position (c :: (s ++ t))).trans (if_pos hc)
      exact hskip.trans (ih hs)

/-- A list is read to its parenthesis. After a comma it has to have a mark. -/
theorem afterMarks_append {n : Nat} {position : ListPosition} (h : Marks n s)
    (hposition : position = .start ∨ position = .afterComma ∧ 0 < n) :
    afterMarks position (s ++ ')' :: t) = some t := by
  -- where a mark may stand, it is read
  have mark {p : ListPosition} {r : List Char} (hp : p = .start ∨ p = .afterComma) :
      afterMarks p ('?' :: r) = afterMarks .afterMark r := by
    rcases hp with rfl | rfl <;> rfl
  induction h generalizing position with
  | none ha =>
      obtain rfl : position = .start := by simpa using hposition
      rw [afterMarks_blanks ha]
      rfl
  | @one a b ha hb =>
      rw [List.append_assoc, List.cons_append, afterMarks_blanks ha,
        mark (hposition.imp_right And.left),
        afterMarks_blanks hb]
      rfl
  | @more n a b s ha hb h ih =>
      have hcomma : afterMarks .afterMark (',' :: (s ++ ')' :: t)) = some t :=
        ih (.inr ⟨rfl, Nat.succ_pos n⟩)
      rw [List.append_assoc, List.cons_append, List.append_assoc, List.cons_append,
        afterMarks_blanks ha, mark (hposition.imp_right And.left), afterMarks_blanks hb, hcomma]

theorem Arguments.not_word (h : Arguments s) : ∀ c ∈ s, isWord c = false :=
  h.forall_mem (fun _ => isWord_of_isBlank) (by simp; decide)

theorem afterArguments_append {n : Nat} {a : List Char} (ha : Blanks a) (h : Marks n s) :
    afterArguments (a ++ '(' :: (s ++ [')']) ++ t) = some t := by
  have hopened : trimStart (a ++ '(' :: (s ++ ')' :: t)) = '(' :: (s ++ ')' :: t) :=
    trimStart_append ha (by simp; decide)
  have hassoc : a ++ '(' :: (s ++ [')']) ++ t = a ++ '(' :: (s ++ ')' :: t) := by simp
  unfold afterArguments
  rw [hassoc, hopened]
  exact afterMarks_append h (.inl rfl)

/-- A call begins with a mark or with a letter. -/
theorem BareCall.head (h : BareCall separates s) :
    ∀ c ∈ (s ++ t).head?, isBlank c = false ∧ c ≠ '{' := by
  obtain ⟨hmarker, hword, -, -, -, -⟩ := h
  cases hmarker with
  | absent =>
      obtain ⟨c, a, l, l', rfl, rfl | rfl⟩ := hword.exists_letters
      all_goals simp; decide
  | present => simp; decide

/-- A call is read up to its list of question marks, and then to the end of the list. -/
theorem afterObject_append (h : BareCall (· ≠ '\n') s) (ht : ∀ c ∈ t, isWord c = false) :
    ∃ rest, afterObject (s ++ t) = some rest ∧ (t = rest ∨ afterArguments rest = some t) := by
  obtain ⟨hmarker, hword, hgap, hne, hname, harguments⟩ := h
  rename_i marker word gap name arguments
  have hletter : ∀ c ∈ (word ++ (gap ++ (name ++ (arguments ++ t)))).head?,
      isBlank c = false ∧ c ≠ '?' := by
    obtain ⟨c, a, l, l', rfl, rfl | rfl⟩ := hword.exists_letters
    all_goals simp; decide
  have hsegment : ∀ c ∈ (name ++ (arguments ++ t)).head?, isBlank c = false := by
    obtain ⟨d, r, rfl, hd⟩ := hname.exists_cons
    intro c hc
    obtain rfl : d = c := by simpa using hc
    cases hblank : isBlank d with
    | false => rfl
    | true => exact absurd hd (by simp [isWord_of_isBlank hblank])
  have hobject : afterObject (marker ++ (word ++ (gap ++ (name ++ arguments))) ++ t)
      = some (arguments ++ t) := by
    unfold afterObject
    simp only [List.append_assoc]
    rw [afterMarker_append hmarker hletter, afterCall_append hword hgap hne hsegment]
    exact afterName_append hname (Nat.le_refl 2)
      (List.forall_mem_append.mpr ⟨harguments.not_word, ht⟩)
  refine ⟨arguments ++ t, hobject, ?_⟩
  cases harguments with
  | absent => exact .inl rfl
  | listed ha h => exact .inr (afterArguments_append ha h)

theorem isCallForm_of_callForm (h : CallForm (· ≠ '\n') s) : isCallForm s = true := by
  cases h with
  | bare h =>
      obtain ⟨rest, hobject, hrest⟩ := afterObject_append h (t := []) nofun
      rw [List.append_nil] at hobject
      unfold isCallForm
      split
      · have hbrace := h.head (t := []) '{'
        simp at hbrace
      · rw [hobject]
        rcases hrest with rfl | hrest
        · rfl
        · simp [hrest]
  | @braced a s b ha h hb =>
      have ht : ∀ c ∈ b ++ ['}'], isWord c = false :=
        List.forall_mem_append.mpr ⟨fun c hc => isWord_of_isBlank (hb c hc),
          List.forall_mem_singleton.mpr (by decide)⟩
      obtain ⟨rest, hobject, hrest⟩ := afterObject_append h ht
      have hopened : trimStart (a ++ (s ++ (b ++ ['}']))) = s ++ (b ++ ['}']) :=
        trimStart_append ha fun c hc => (h.head c hc).1
      have hclosed : trimStart (b ++ ['}']) = ['}'] := trimStart_append hb (by simp; decide)
      unfold isCallForm
      simp only [hopened, hobject, Option.any_some]
      rcases hrest with rfl | hrest
      · simp [hclosed]
      · simp [hrest, hclosed]

theorem isCallForm_iff : isCallForm s = true ↔ CallForm (· ≠ '\n') s :=
  ⟨callForm_of_isCallForm, isCallForm_of_callForm⟩

/-! ## Classification -/

theorem isProcedureCall_iff {sql : String} :
    isProcedureCall sql = true ↔ CallForm (· ≠ '\n') sql.toList :=
  isCallForm_iff

/-- A call with dots between the segments of its name is recognised, whatever the name is. -/
theorem classify_of_callForm {sql : String} (h : CallForm (· = '.') sql.toList) :
    isProcedureCall sql = true ∧ classify sql = .procedureCall := by
  have hcall : isProcedureCall sql = true :=
    isProcedureCall_iff.mpr (h.mono fun c hc => by rw [hc]; decide)
  exact ⟨hcall, by rw [classify, if_pos hcall]⟩

/-- A call whose name is made of keywords, with a mark for its result. -/
theorem classify_of_callForm_keywords :
    CallForm (· = '.') "{ ? = CALL update.delete_all.insert( ?, ? ) }".toList ∧
    isProcedureCall "{ ? = CALL update.delete_all.insert( ?, ? ) }" = true ∧
    classify "{ ? = CALL update.delete_all.insert( ?, ? ) }" = .procedureCall := by
  have space : Blanks [' '] := by decide +kernel
  have hmarks : Marks 2 " ?, ? ".toList :=
    .more (b := []) space nofun (.one space space)
  have segment (w : List Char) (hne : w ≠ []) (hw : w.all isWord = true) : Segment w :=
    ⟨hne, List.all_eq_true.mp hw⟩
  have hname : Name (· = '.') 2 "update.delete_all.insert".toList :=
    .qualified (segment "update".toList (by decide) (by decide)) rfl
      (.qualified (segment "delete_all".toList (by decide) (by decide)) rfl
        (.last (segment "insert".toList (by decide) (by decide))))
  have hmarker : Marker "? = ".toList := .present space space
  have hword : CallWord "CALL".toList := by decide
  have hbody : BareCall (· = '.') "? = CALL update.delete_all.insert( ?, ? )".toList :=
    .intro hmarker hword space nofun hname (.listed (a := []) nofun hmarks)
  have hcall : CallForm (· = '.') "{ ? = CALL update.delete_all.insert( ?, ? ) }".toList :=
    .braced space hbody space
  exact ⟨hcall, classify_of_callForm hcall⟩

/-- The kind of every text: it is a call if the reader takes it, else its keywords decide. -/
theorem classify_exact (sql : String) :
    (isProcedureCall sql = true ↔ CallForm (· ≠ '\n') sql.toList) ∧
    (classify sql = .procedureCall ↔ CallForm (· ≠ '\n') sql.toList) ∧
    (classify sql = .dml ↔ ¬ CallForm (· ≠ '\n') sql.toList ∧ isDml sql = true) ∧
    (classify sql = .select ↔ ¬ CallForm (· ≠ '\n') sql.toList ∧ isDml sql = false) := by
  rw [← isProcedureCall_iff]
  unfold classify
  cases isProcedureCall sql <;> cases isDml sql <;> simp

/-- A text with a hyphen in its name is taken for a call, though it is none. -/
theorem hyphen_taken_for_call :
    isProcedureCall "call a-b" = true ∧ classify "call a-b" = .procedureCall ∧
    isDml "call a-b" = false ∧ ¬ CallForm (· = '.') "call a-b".toList := by
  refine ⟨by decide, by decide, by decide, fun h => ?_⟩
  have hnone : ∀ c ∈ "call a-b".toList, c ≠ '-' := by
    refine h.forall_mem ?_ ?_ ?_ (by simp) ?_
    · rintro c hc rfl
      exact absurd hc (by decide)
    · rintro c hc rfl
      exact absurd hc (by decide)
    · rintro c hc rfl
      exact absurd hc (by decide)
    · rintro c hc rfl
      exact absurd hc (by decide)
  exact hnone '-' (by decide) rfl

end SqlGateway.Sql
