import SqlGateway.Proofs.Sql.Resolution

/-!
# Bindings that give one text

Two lists of bindings may resolve a text to the same result though a placeholder takes more values
from one than from the other. What one placeholder has more, later ones have less, and all of them
stand in one series: nothing but a comma and a space is between one and the next, or question marks
divided in this way. Everywhere else the values of both come from the same placeholders.
-/

namespace SqlGateway.Sql

/-- What comes next in a series of question marks. -/
inductive Phase where
  | comma
  | space
  | mark
  deriving DecidableEq, Repr

namespace Phase

def char : Phase → Char
  | .comma => ','
  | .space => ' '
  | .mark => '?'

def next : Phase → Phase
  | .comma => .space
  | .space => .mark
  | .mark => .comma

theorem char_ne_colon (i : Phase) : i.char ≠ ':' := by
  cases i <;> decide

theorem eq_mark_of_char {i : Phase} (h : i.char = '?') : i = .mark := by
  cases i with
  | comma | space => exact absurd h (by decide)
  | mark => rfl

end Phase

/-- The first `n` characters of a series that does not end. -/
def seriesText (i : Phase) : Nat → List Char
  | 0 => []
  | n + 1 => i.char :: seriesText i.next n

theorem seriesText_add_three (i : Phase) (n : Nat) :
    seriesText i (n + 3) = i.char :: i.next.char :: i.next.next.char :: seriesText i n := by
  cases i <;> rfl

/-- After whole periods a series is where it was. -/
theorem seriesText_add (i : Phase) (n l : Nat) :
    seriesText i (3 * n + l) = seriesText i (3 * n) ++ seriesText i l := by
  induction n with
  | zero => rw [Nat.mul_zero, Nat.zero_add]; rfl
  | succ n ih =>
      rw [show 3 * (n + 1) + l = 3 * n + l + 3 by omega, show 3 * (n + 1) = 3 * n + 3 from rfl,
        seriesText_add_three, seriesText_add_three, ih]
      rfl

theorem seriesText_append_char (i : Phase) (n : Nat) (r : List Char) :
    seriesText i (3 * n) ++ i.char :: r = i.char :: (seriesText i.next (3 * n) ++ r) := by
  have h := seriesText_add i n 1
  rw [List.append_cons, show [i.char] = seriesText i 1 from rfl, ← h]
  rfl

theorem marks_succ (n : Nat) : marks (n + 1) = '?' :: seriesText .comma (3 * n) := by
  induction n with
  | zero => rfl
  | succ n ih =>
      rw [marks_add_two, ih, Nat.mul_succ, seriesText_add_three]
      rfl

theorem seriesText_append_marks (n : Nat) {m : Nat} (hm : 0 < m) :
    seriesText .mark (3 * n) ++ marks m = marks (n + m) := by
  induction n with
  | zero => rw [Nat.zero_add]; rfl
  | succ n ih =>
      obtain ⟨k, hk⟩ := Nat.exists_eq_succ_of_ne_zero (show n + m ≠ 0 by omega)
      rw [Nat.mul_succ, seriesText_add_three, show n + 1 + m = k + 2 by omega, marks_add_two,
        ← Nat.succ_eq_add_one k, ← hk, ← ih]
      rfl

/-! ## Series of a text -/

variable {α : Type}

/-- The piece may stand where a series has come to `i`, and brings it to `i'`. -/
inductive Continues (bindings : Bindings α) : Phase → Piece → Phase → Prop
  | plain (i : Phase) : Continues bindings i (.plain i.char) i.next
  | placeholder {word : List Char} (hw : (boundTo bindings word).isSome) :
      Continues bindings .mark (.placeholder word) .comma

/-- The pieces go on with a series that has come to `i`, and end with a placeholder of it. -/
inductive Series (bindings : Bindings α) : Phase → List Piece → Prop
  | last {word : List Char} (hw : (boundTo bindings word).isSome) :
      Series bindings .mark [.placeholder word]
  | cons {i i' : Phase} {p : Piece} {ps : List Piece} (hp : Continues bindings i p i')
      (h : Series bindings i' ps) : Series bindings i (p :: ps)

/-- The same placeholders of the text are bound. -/
def SameBound (first second : Bindings α) (ps : List Piece) : Prop :=
  ∀ word, .placeholder word ∈ ps →
    (boundTo second word).isSome = (boundTo first word).isSome

/-- One series of the text holds both pieces. -/
def Joined (bindings : Bindings α) (ps : List Piece) (a b : Nat) : Prop :=
  ∃ before series after, ps = before ++ (series ++ after) ∧ Series bindings .mark series ∧
    before.length ≤ min a b ∧ max a b < before.length + series.length

/-- Where in the text the placeholder stands that the value comes from. -/
def Origin.place {bindings : Bindings α} {ps : List Piece} {j : Nat} (o : Origin bindings ps j) :
    Nat :=
  o.before.length

variable {first second : Bindings α} {ps qs : List Piece} {i i' : Phase} {n m n' m' j : Nat}
  {r s : List Char}

theorem Joined.symm {a b : Nat} (h : Joined first ps a b) : Joined first ps b a := by
  obtain ⟨before, series, after, hps, hseries, hmin, hmax⟩ := h
  exact ⟨before, series, after, hps, hseries, min_comm a b ▸ hmin, max_comm a b ▸ hmax⟩

theorem SameBound.symm (h : SameBound first second ps) : SameBound second first ps :=
  fun word hw => (h word hw).symm

theorem Continues.congr {p : Piece} (hp : Continues second i p i')
    (h : ∀ word, p = .placeholder word →
      (boundTo second word).isSome = (boundTo first word).isSome) :
    Continues first i p i' := by
  cases hp with
  | plain => exact .plain i
  | placeholder hw => exact .placeholder (h _ rfl ▸ hw)

theorem Series.congr (hs : Series second i ps) (h : SameBound first second ps) :
    Series first i ps := by
  induction hs with
  | last hw => exact .last (h _ List.mem_cons_self ▸ hw)
  | cons hp hs ih =>
      refine .cons (hp.congr fun word hw => h word (by simp [hw])) (ih fun word hw => ?_)
      exact h word (List.mem_cons_of_mem _ hw)

theorem Joined.congr {a b : Nat} (hj : Joined second ps a b) (h : SameBound first second ps) :
    Joined first ps a b := by
  obtain ⟨before, series, after, rfl, hseries, hplace⟩ := hj
  refine ⟨before, series, after, rfl, hseries.congr fun word hw => h word ?_, hplace⟩
  exact List.mem_append_right _ (List.mem_append_left _ hw)

/-! ## Two resolutions side by side -/

/-- Of two resolutions of a text that agree so far, `n` and `m` values are taken, and `r` and `s`
are left to write. The one that took more values is ahead by the question marks for them. -/
def Drift (i : Phase) (n m : Nat) (r s : List Char) : Prop :=
  seriesText i (3 * n) ++ r = seriesText i (3 * m) ++ s

namespace Drift

theorem symm (h : Drift i n m r s) : Drift i m n s r :=
  Eq.symm h

theorem eq_of_level (h : Drift i n n r s) : r = s :=
  List.append_cancel_left h

theorem of_level (h : r = s) : Drift i n n r s :=
  congrArg _ h

/-- Whoever is ahead, the text goes on with the series. -/
theorem char_of_ne {c : Char} (hne : n ≠ m) (h : Drift i n m (c :: r) (c :: s)) : i.char = c := by
  have ahead {n m : Nat} {r s : List Char} (hlt : n < m) (h : Drift i n m (c :: r) (c :: s)) :
      i.char = c := by
    obtain ⟨k, rfl⟩ := Nat.exists_eq_add_of_lt hlt
    unfold Drift at h
    rw [show 3 * (n + k + 1) = 3 * n + (3 * k + 2 + 1) by omega, seriesText_add,
      List.append_assoc] at h
    exact (List.cons.inj (List.append_cancel_left h)).1.symm
  rcases Nat.lt_or_gt_of_ne hne with hlt | hlt
  · exact ahead hlt h
  · exact ahead hlt h.symm

theorem plain (h : Drift i n m (i.char :: r) (i.char :: s)) : Drift i.next n m r s := by
  unfold Drift at h
  rw [seriesText_append_char, seriesText_append_char] at h
  exact (List.cons.inj h).2

theorem placeholder (hn : 0 < n') (hm : 0 < m')
    (h : Drift .mark n m (marks n' ++ r) (marks m' ++ s)) : Drift .comma (n + n') (m + m') r s := by
  unfold Drift at h ⊢
  rw [← List.append_assoc, ← List.append_assoc, seriesText_append_marks n hn,
    seriesText_append_marks m hm] at h
  obtain ⟨k, hk⟩ := Nat.exists_eq_succ_of_ne_zero (show n + n' ≠ 0 by omega)
  obtain ⟨l, hl⟩ := Nat.exists_eq_succ_of_ne_zero (show m + m' ≠ 0 by omega)
  rw [hk, hl, marks_succ, marks_succ] at h
  have hrest : seriesText .comma (3 * k) ++ r = seriesText .comma (3 * l) ++ s :=
    (List.cons.inj h).2
  rw [hk, hl, Nat.mul_succ, Nat.mul_succ, seriesText_add_three, seriesText_add_three]
  simp only [List.cons_append, hrest]

end Drift

variable (hf : Filled first) (hs : Filled second)
include hf hs

theorem Drift.bound {word : List Char} {binding binding' : Binding α}
    (hfirst : boundTo first word = some binding) (hsecond : boundTo second word = some binding')
    (h : Drift i n m (written first (.placeholder word) ++ r)
      (written second (.placeholder word) ++ s)) :
    Drift .comma (n + binding.values.length) (m + binding'.values.length) r s ∧
      (n ≠ m → i = .mark) := by
  have hn := hf _ _ hfirst
  have hm := hs _ _ hsecond
  rw [written_of_bound hfirst, written_of_bound hsecond] at h
  by_cases hne : n = m
  · subst hne
    exact ⟨.placeholder hn hm (.of_level h.eq_of_level), fun hne => absurd rfl hne⟩
  · obtain ⟨rest, hrest⟩ := marks_of_pos hn
    obtain ⟨rest', hrest'⟩ := marks_of_pos hm
    have hmark : i.char = '?' := by
      rw [hrest, hrest'] at h
      exact h.char_of_ne hne
    obtain rfl := Phase.eq_mark_of_char hmark
    exact ⟨h.placeholder hn hm, fun _ => rfl⟩

/-- After a piece that both write, one resolution may still be ahead, or another. If one was ahead
before, the piece goes on with a series. -/
theorem Drift.step {p : Piece}
    (hp : ∀ word, p = .placeholder word →
      (boundTo second word).isSome = (boundTo first word).isSome)
    (h : Drift i n m (written first p ++ r) (written second p ++ s)) :
    ∃ i', Drift i' (n + (taken first p).length) (m + (taken second p).length) r s ∧
      (n ≠ m → Continues first i p i') := by
  cases p with
  | plain c =>
      by_cases hne : n = m
      · subst hne
        exact ⟨i, .of_level (List.cons.inj h.eq_of_level).2, fun hne => absurd rfl hne⟩
      · obtain rfl := h.char_of_ne hne
        exact ⟨i.next, h.plain, fun _ => .plain i⟩
  | placeholder word =>
      have hword := hp word rfl
      cases hfirst : boundTo first word with
      | none =>
          have hsecond : boundTo second word = none := by simpa [hfirst] using hword
          rw [written_of_unbound hfirst, written_of_unbound hsecond] at h
          -- a colon is in no series, so neither is ahead
          have hne : n = m :=
            Decidable.byContradiction fun hne => i.char_ne_colon (h.char_of_ne hne)
          subst hne
          refine ⟨i, ?_, fun hne => absurd rfl hne⟩
          simp only [taken, hfirst, hsecond]
          exact .of_level (List.append_cancel_left h.eq_of_level)
      | some binding =>
          obtain ⟨binding', hsecond⟩ : ∃ binding', boundTo second word = some binding' := by
            simpa [hfirst, Option.isSome_iff_exists] using hword
          obtain ⟨hdrift, hmark⟩ := h.bound hf hs hfirst hsecond
          refine ⟨.comma, ?_, fun hne => ?_⟩
          · simpa only [taken, hfirst, hsecond] using hdrift
          · obtain rfl := hmark hne
            exact .placeholder (by simp [hfirst])

theorem Drift.steps (hps : SameBound first second ps)
    (h : Drift i n m (ps.flatMap (written first) ++ r) (ps.flatMap (written second) ++ s)) :
    ∃ i', Drift i' (n + (ps.flatMap (taken first)).length) (m + (ps.flatMap (taken second)).length)
      r s := by
  induction ps generalizing i n m with
  | nil => exact ⟨i, h⟩
  | cons p ps ih =>
      simp only [List.flatMap_cons, List.append_assoc] at h
      obtain ⟨i', h, -⟩ := h.step hf hs fun word hw => hps word (by simp [hw])
      obtain ⟨i'', h⟩ := ih (fun word hw => hps word (List.mem_cons_of_mem p hw)) h
      refine ⟨i'', ?_⟩
      simpa only [List.flatMap_cons, List.length_append, Nat.add_assoc] using h

/-- While one resolution is ahead, the text is one series. -/
theorem Drift.series {word : List Char}
    (hps : SameBound first second (ps ++ .placeholder word :: qs))
    (h : Drift i n m ((ps ++ .placeholder word :: qs).flatMap (written first))
      ((ps ++ .placeholder word :: qs).flatMap (written second)))
    (hn : j < n) (hm : m + (ps.flatMap (taken second)).length ≤ j) :
    Series first i (ps ++ [.placeholder word]) := by
  induction ps generalizing i n m with
  | nil =>
      simp only [List.nil_append, List.flatMap_cons] at h
      simp only [List.flatMap_nil, List.length_nil, Nat.add_zero] at hm
      obtain ⟨i', -, hi⟩ := h.step hf hs fun word hw => hps word (by simp [hw])
      cases hi (by omega) with
      | placeholder hw => exact .last hw
  | cons p ps ih =>
      simp only [List.cons_append, List.flatMap_cons] at h
      simp only [List.flatMap_cons, List.length_append] at hm
      obtain ⟨i', h, hi⟩ := h.step hf hs fun word hw => hps word (by simp [hw])
      have hrest := ih (fun word hw => hps word (List.mem_cons_of_mem p hw)) h
      exact .cons (hi (by omega)) (hrest (by omega) (by omega))

/-! ## Origins of a value -/

omit hf hs in
/-- Of two placeholders of a text, one comes first unless they are the same. -/
theorem Origin.apart (o : Origin first ps j) (o' : Origin second ps j) (hle : o.place ≤ o'.place) :
    (o'.before = o.before ∧ o'.word = o.word) ∨
      ∃ mid, o'.before = o.before ++ .placeholder o.word :: mid ∧
        o.after = mid ++ .placeholder o'.word :: o'.after := by
  rcases List.append_eq_append_iff.mp (o.split.symm.trans o'.split) with
    ⟨rest, hbefore, hrest⟩ | ⟨rest, hbefore, hrest⟩
  · cases rest with
    | nil =>
        refine .inl ⟨by simpa using hbefore, ?_⟩
        exact (Piece.placeholder.inj (List.cons.inj hrest).1).symm
    | cons p mid =>
        obtain ⟨rfl, hafter⟩ := List.cons.inj hrest
        exact .inr ⟨mid, hbefore, hafter⟩
  · have hlength := congrArg List.length hbefore
    simp only [List.length_append] at hlength
    obtain rfl : rest = [] := by
      unfold place at hle
      exact List.length_eq_zero_iff.mp (by omega)
    exact .inl ⟨by simpa using hbefore.symm, Piece.placeholder.inj (List.cons.inj hrest).1⟩

/-- Where a value comes from an earlier placeholder in the first resolution, that one is ahead from
there up to the placeholder that the value comes from in the second. -/
theorem Origin.joined_of_le (hps : SameBound first second ps)
    (h : ps.flatMap (written first) = ps.flatMap (written second)) (o : Origin first ps j)
    (o' : Origin second ps j) (hle : o.place ≤ o'.place) : Joined first ps o.place o'.place := by
  have hword : (boundTo first o.word).isSome := by simp [o.bound]
  unfold place
  rcases o.apart o' hle with ⟨hbefore, -⟩ | ⟨mid, hbefore, hafter⟩
  · refine ⟨o.before, [.placeholder o.word], o.after, by simpa using o.split, .last hword, ?_, ?_⟩
    · simp [hbefore]
    · simp [hbefore]
  · have hsplit := o.split
    rw [hafter] at hsplit
    have hbefore_mem : ∀ p ∈ o.before, p ∈ ps := fun p hp => by
      rw [hsplit]
      exact List.mem_append_left _ hp
    have hmid_mem : ∀ p ∈ .placeholder o.word :: (mid ++ .placeholder o'.word :: o'.after),
        p ∈ ps := fun p hp => by
      rw [hsplit]
      exact List.mem_append_right _ hp
    obtain ⟨binding, hsecond⟩ := Option.isSome_iff_exists.mp
      ((hps _ (hmid_mem _ List.mem_cons_self)).trans hword)
    have hlevel : Drift .comma 0 0
        (o.before.flatMap (written first) ++ (written first (.placeholder o.word) ++
          (mid ++ .placeholder o'.word :: o'.after).flatMap (written first)))
        (o.before.flatMap (written second) ++ (written second (.placeholder o.word) ++
          (mid ++ .placeholder o'.word :: o'.after).flatMap (written second))) := by
      refine .of_level ?_
      rwa [hsplit, List.flatMap_append, List.flatMap_append, List.flatMap_cons,
        List.flatMap_cons] at h
    obtain ⟨i, hahead⟩ := hlevel.steps hf hs fun w hw => hps w (hbefore_mem _ hw)
    obtain ⟨hahead, -⟩ := hahead.bound hf hs o.bound hsecond
    have hseries : Series first .comma (mid ++ [.placeholder o'.word]) := by
      refine hahead.series (j := j) hf hs
        (fun w hw => hps w (hmid_mem _ (List.mem_cons_of_mem _ hw))) ?_ ?_
      · have := o.index
        have := o.lt
        omega
      · have hindex := o'.index
        simp only [hbefore, List.flatMap_append, List.flatMap_cons, List.length_append, taken,
          hsecond] at hindex
        omega
    refine ⟨o.before, .placeholder o.word :: (mid ++ [.placeholder o'.word]), o'.after,
      by simpa using hsplit, .cons (.placeholder hword) hseries, ?_, ?_⟩
    · simp [hbefore]
    · simp [hbefore]

theorem Origin.joined (hps : SameBound first second ps)
    (h : ps.flatMap (written first) = ps.flatMap (written second)) (o : Origin first ps j)
    (o' : Origin second ps j) : Joined first ps o.place o'.place := by
  rcases Nat.le_total o.place o'.place with hle | hle
  · exact o.joined_of_le hf hs hps h o' hle
  · exact ((o'.joined_of_le hs hf hps.symm h.symm o hle).congr hps).symm

theorem sameBound_of_written_eq {sql : List Char} (hsplits : Splits sql ps)
    (h : ps.flatMap (written first) = ps.flatMap (written second)) : SameBound first second ps := by
  have hpieces : ps.flatMap (rewritten first) = ps.flatMap (rewritten second) := by
    rw [(hsplits.rewritten hf).eq_pieces, (hsplits.rewritten hs).eq_pieces, h]
  -- a placeholder that is not bound is one of the resolved text
  have kept {b b' : Bindings α} (h : ps.flatMap (rewritten b) = ps.flatMap (rewritten b'))
      {word : List Char} (hw : .placeholder word ∈ ps) (hb : boundTo b word = none) :
      boundTo b' word = none := by
    have hmem : .placeholder word ∈ ps.flatMap (rewritten b) :=
      List.mem_flatMap.mpr ⟨_, hw, by simp [rewritten, hb]⟩
    obtain ⟨p, -, hp⟩ := List.mem_flatMap.mp (h ▸ hmem)
    exact (placeholder_mem_rewritten hp).2
  intro word hw
  have hiff : boundTo second word = none ↔ boundTo first word = none :=
    ⟨kept hpieces.symm hw, kept hpieces hw⟩
  cases hfirst : boundTo first word <;> cases hsecond : boundTo second word <;>
    simp_all

end SqlGateway.Sql
