import SqlGateway.Proofs.Sql.Delimiter
import SqlGateway.Text.Blank

/-!
# Comments of a text

If an opening and a closing delimiter take turns, the comments they enclose are the ones found by
pairing them up, and blanking these out is one pass over the text that looks at one delimiter at a
time.
-/

namespace SqlGateway.Sql

open Text

/-! ## Taking turns -/

/-- An opening and a closing delimiter take turns; the first is opening, the last closing. -/
inductive Alternate : List Delimiter → Prop
  | nil : Alternate []
  | comment {o c : Delimiter} {ds : List Delimiter} (ho : o.opens = true) (hc : c.opens = false)
      (h : Alternate ds) : Alternate (o :: c :: ds)

/-- The first delimiter out of turn is a closing one where no comment is open, or an opening one
where a comment is open. -/
inductive Breaks (d : Delimiter) : List Delimiter → Prop
  | close {ds : List Delimiter} (hd : d.opens = false) : Breaks d (d :: ds)
  | nested {o : Delimiter} {ds : List Delimiter} (ho : o.opens = true) (hd : d.opens = true) :
      Breaks d (o :: d :: ds)
  | later {o c : Delimiter} {ds : List Delimiter} (ho : o.opens = true) (hc : c.opens = false)
      (h : Breaks d ds) : Breaks d (o :: c :: ds)

def opened (ds : List Delimiter) : Nat :=
  ds.countP (·.opens)

def closed (ds : List Delimiter) : Nat :=
  ds.countP (!·.opens)

/-- The comments between delimiters that take turns. -/
def comments : List Delimiter → List Span
  | o :: c :: ds => ⟨o.offset, c.offset + 2⟩ :: comments ds
  | _ => []

theorem alternate_cons {o : Delimiter} {ds : List Delimiter} : Alternate (o :: ds) ↔
    o.opens = true ∧ ∃ c rest, ds = c :: rest ∧ c.opens = false ∧ Alternate rest := by
  constructor
  · intro h
    cases h with
    | comment ho hc h => exact ⟨ho, _, _, rfl, hc, h⟩
  · rintro ⟨ho, c, rest, rfl, hc, h⟩
    exact .comment ho hc h

theorem start_of_mem_comments {ds : List Delimiter} {span : Span} (h : span ∈ comments ds) :
    ∃ d ∈ ds, d.offset = span.start := by
  induction ds using comments.induct with
  | case1 o c ds ih =>
      rcases List.mem_cons.mp h with rfl | h
      · exact ⟨o, List.mem_cons_self, rfl⟩
      · obtain ⟨d, hd, heq⟩ := ih h
        exact ⟨d, by simp [hd], heq⟩
  | case2 ds hds => simp [comments] at h

theorem Alternate.opened_eq_closed {ds : List Delimiter} (h : Alternate ds) :
    opened ds = closed ds := by
  induction h with
  | nil => rfl
  | comment ho hc h ih => simpa [opened, closed, ho, hc] using ih

theorem alternate_or_breaks {ds : List Delimiter} (h : opened ds = closed ds) :
    Alternate ds ∨ ∃ d, Breaks d ds := by
  induction ds using comments.induct with
  | case1 o c ds ih =>
      cases ho : o.opens with
      | false => exact .inr ⟨o, .close ho⟩
      | true =>
          cases hc : c.opens with
          | true => exact .inr ⟨c, .nested ho hc⟩
          | false =>
              have h : opened ds = closed ds := by simpa [opened, closed, ho, hc] using h
              rcases ih h with h | ⟨d, h⟩
              · exact .inl (.comment ho hc h)
              · exact .inr ⟨d, .later ho hc h⟩
  | case2 ds hds =>
      match ds with
      | [] => exact .inl .nil
      | [d] => cases hd : d.opens <;> simp [opened, closed, hd] at h
      | o :: c :: ds => exact absurd rfl (hds o c ds)

/-! ## Pairing -/

def starts (ds : List Delimiter) : List Nat :=
  (ds.filter (·.opens)).map (·.offset)

def stops (ds : List Delimiter) : List Nat :=
  (ds.filter (!·.opens)).map (·.offset + 2)

theorem length_starts (ds : List Delimiter) : (starts ds).length = opened ds := by
  simp [starts, opened, List.countP_eq_length_filter]

theorem length_stops (ds : List Delimiter) : (stops ds).length = closed ds := by
  simp [stops, closed, List.countP_eq_length_filter]

theorem le_of_mem_starts {ds : List Delimiter} {n x : Nat} (h : ∀ d ∈ ds, n ≤ d.offset)
    (hx : x ∈ starts ds) : n ≤ x := by
  obtain ⟨d, hd, rfl⟩ := List.mem_map.mp hx
  exact h d (List.mem_filter.mp hd).1

theorem le_of_mem_stops {ds : List Delimiter} {n x : Nat} (h : ∀ d ∈ ds, n ≤ d.offset)
    (hx : x ∈ stops ds) : n + 2 ≤ x := by
  obtain ⟨d, hd, rfl⟩ := List.mem_map.mp hx
  have := h d (List.mem_filter.mp hd).1
  omega

section Pairing

variable {ds : List Delimiter} {p : Nat}

/-- A comment that is complete is the first of the pairs. -/
theorem pairSpans_comment {o c : Delimiter} (ho : o.opens = true) (hc : c.opens = false)
    (hp : p ≤ o.offset) (hoc : o.offset + 2 ≤ c.offset) :
    pairSpans p (starts (o :: c :: ds)) (stops (o :: c :: ds)) =
      (pairSpans (c.offset + 2) (starts ds) (stops ds)).map (⟨o.offset, c.offset + 2⟩ :: ·) := by
  have hlt : ¬ c.offset + 2 ≤ o.offset := by omega
  simp [starts, stops, ho, hc, pairSpans, hlt, Nat.not_lt.mpr hp]

theorem pairSpans_alternate (h : Alternate ds) (hp : ∀ d ∈ ds, p ≤ d.offset)
    (hds : ds.Pairwise fun d e => d.offset + 2 ≤ e.offset) :
    pairSpans p (starts ds) (stops ds) = .ok (comments ds) := by
  induction h generalizing p with
  | nil => rfl
  | @comment o c ds ho hc h ih =>
      simp only [List.pairwise_cons, List.mem_cons, forall_eq_or_imp] at hp hds
      rw [pairSpans_comment ho hc hp.1 hds.1.1, ih hds.2.1 hds.2.2]
      rfl

def Delimiter.outOfTurn (d : Delimiter) : Malformed :=
  if d.opens then .nestedOpen d.offset else .unmatchedClose d.offset

theorem pairSpans_breaks {d : Delimiter} (h : Breaks d ds) (hcount : opened ds = closed ds)
    (hp : ∀ d ∈ ds, p ≤ d.offset) (hds : ds.Pairwise fun d e => d.offset + 2 ≤ e.offset) :
    pairSpans p (starts ds) (stops ds) = .error d.outOfTurn := by
  induction h generalizing p with
  | @close ds hd =>
      simp only [List.pairwise_cons] at hds
      obtain ⟨start, rest, hstart⟩ : ∃ start rest, starts ds = start :: rest := by
        apply List.exists_cons_of_length_pos
        have := length_starts ds
        simp [opened, closed, hd] at hcount this
        omega
      have hle : d.offset + 2 ≤ start := le_of_mem_starts hds.1 (by simp [hstart])
      have hd' : starts (d :: ds) = start :: rest := by simpa [starts, hd] using hstart
      have hstops : stops (d :: ds) = (d.offset + 2) :: stops ds := by simp [stops, hd]
      rw [hd', hstops, pairSpans, if_pos hle]
      simp [Delimiter.outOfTurn, hd]
  | @nested o ds ho hd =>
      simp only [List.pairwise_cons, List.mem_cons, forall_eq_or_imp] at hp hds
      -- each of the two comments that are open has its end further on
      obtain ⟨stop, next, rest, hstop⟩ : ∃ stop next rest, stops ds = stop :: next :: rest := by
        have := length_stops ds
        match hs : stops ds with
        | [] | [_] => simp [opened, closed, ho, hd, hs] at hcount this; omega
        | stop :: next :: rest => exact ⟨stop, next, rest, rfl⟩
      have hle : d.offset + 2 + 2 ≤ stop := le_of_mem_stops hds.2.1 (by simp [hstop])
      have hle' : d.offset + 2 + 2 ≤ next := le_of_mem_stops hds.2.1 (by simp [hstop])
      have hstarts : starts (o :: d :: ds) = o.offset :: d.offset :: starts ds := by
        simp [starts, ho, hd]
      have hstops : stops (o :: d :: ds) = stop :: next :: rest := by
        simpa [stops, ho, hd] using hstop
      have hod := hds.1.1
      rw [hstarts, hstops, pairSpans, if_neg (by omega), if_neg (by omega), pairSpans,
        if_neg (by omega), if_pos (by omega)]
      simp [Delimiter.outOfTurn, hd, Except.map]
  | @later o c ds ho hc h ih =>
      simp only [List.pairwise_cons, List.mem_cons, forall_eq_or_imp] at hp hds
      have hcount : opened ds = closed ds := by simpa [opened, closed, ho, hc] using hcount
      rw [pairSpans_comment ho hc hp.1 hds.1.1, ih hcount hds.2.1 hds.2.2]
      rfl

end Pairing

theorem commentSpans_of_alternate {s : List Char} (h : Alternate (delimiters 0 s)) :
    commentSpans s = .ok (comments (delimiters 0 s)) := by
  have hcount : (starts (delimiters 0 s)).length = (stops (delimiters 0 s)).length := by
    rw [length_starts, length_stops, h.opened_eq_closed]
  exact (if_pos hcount).trans
    (pairSpans_alternate h (fun d _ => Nat.zero_le d.offset) (delimiters_apart 0 s))

theorem commentSpans_of_breaks {s : List Char} {d : Delimiter} (h : Breaks d (delimiters 0 s))
    (hcount : opened (delimiters 0 s) = closed (delimiters 0 s)) :
    commentSpans s = .error d.outOfTurn := by
  have hlength : (starts (delimiters 0 s)).length = (stops (delimiters 0 s)).length := by
    rw [length_starts, length_stops, hcount]
  exact (if_pos hlength).trans
    (pairSpans_breaks h hcount (fun d _ => Nat.zero_le d.offset) (delimiters_apart 0 s))

theorem commentSpans_of_count {s : List Char}
    (hcount : opened (delimiters 0 s) ≠ closed (delimiters 0 s)) :
    commentSpans s =
      .error (.delimiterCount (opened (delimiters 0 s)) (closed (delimiters 0 s))) := by
  rw [← length_starts, ← length_stops] at hcount ⊢
  exact if_neg hcount

theorem commentSpans_eq_ok_iff {s : List Char} {spans : List Span} :
    commentSpans s = .ok spans ↔
      Alternate (delimiters 0 s) ∧ spans = comments (delimiters 0 s) := by
  constructor
  · intro h
    by_cases hcount : opened (delimiters 0 s) = closed (delimiters 0 s)
    · rcases alternate_or_breaks hcount with halt | ⟨d, hbreaks⟩
      · rw [commentSpans_of_alternate halt] at h
        cases h
        exact ⟨halt, rfl⟩
      · rw [commentSpans_of_breaks hbreaks hcount] at h
        cases h
    · rw [commentSpans_of_count hcount] at h
      cases h
  · rintro ⟨halt, rfl⟩
    exact commentSpans_of_alternate halt

/-! ## One pass over the text -/

/-- A pass over a text that starts at `n`, with the comments that are not behind it. The first of
them has begun if `inside` is true, and the others start further on. -/
inductive Scan : Nat → Bool → List Span → List Char → Prop
  | nil {n : Nat} : Scan n false [] []
  | opening {n : Nat} {span : Span} {spans : List Span} {s : List Char} (hstart : span.start = n)
      (hstop : n + 2 < span.stop) (h : Scan (n + 2) true (span :: spans) s) :
      Scan n false (span :: spans) ('/' :: '*' :: s)
  | closing {n : Nat} {span : Span} {spans : List Span} {s : List Char} (hstart : span.start ≤ n)
      (hstop : span.stop = n + 2) (h : Scan (n + 2) false spans s) :
      Scan n true (span :: spans) ('*' :: '/' :: s)
  | outside {n : Nat} {spans : List Span} {c : Char} {s : List Char}
      (hopen : ∀ t, c = '/' → s = '*' :: t → False) (hclose : ∀ t, c = '*' → s = '/' :: t → False)
      (hspans : ∀ span ∈ spans, n < span.start) (h : Scan (n + c.utf8Size) false spans s) :
      Scan n false spans (c :: s)
  | inside {n : Nat} {span : Span} {spans : List Span} {c : Char} {s : List Char}
      (hopen : ∀ t, c = '/' → s = '*' :: t → False) (hclose : ∀ t, c = '*' → s = '/' :: t → False)
      (hstart : span.start ≤ n) (hstop : n + c.utf8Size < span.stop)
      (h : Scan (n + c.utf8Size) true (span :: spans) s) : Scan n true (span :: spans) (c :: s)

theorem lt_start_of_delimiters {n k : Nat} {s : List Char} (hk : 0 < k) :
    ∀ span ∈ comments (delimiters (n + k) s), n < span.start := by
  intro span hspan
  obtain ⟨d, hd, heq⟩ := start_of_mem_comments hspan
  have := le_offset hd
  omega

/-- Either no comment is open at `n`, or the one that started at `m`. -/
theorem scan_delimiters (n : Nat) (s : List Char) :
    (Alternate (delimiters n s) → Scan n false (comments (delimiters n s)) s) ∧
      ∀ {m c ds}, m ≤ n → delimiters n s = c :: ds → c.opens = false → Alternate ds →
        Scan n true (⟨m, c.offset + 2⟩ :: comments ds) s := by
  fun_induction delimiters n s with
  | case1 => exact ⟨fun _ => .nil, by simp⟩
  | case2 n s ih =>
      constructor
      · intro h
        obtain ⟨-, c, ds, hds, hc, h⟩ := alternate_cons.mp h
        have hle : n + 2 ≤ c.offset := le_offset (s := s) (by simp [hds])
        rw [hds]
        exact .opening rfl (by simp only; omega) (ih.2 (Nat.le_add_right n 2) hds hc h)
      · -- the next delimiter would be this one, and it opens
        intro _ _ _ _ h hc
        cases h
        cases hc
  | case3 n s ih =>
      constructor
      · -- there is no comment to close
        intro h
        exact absurd (alternate_cons.mp h).1 (by simp)
      · intro _ _ _ hm h _ hds
        cases h
        exact .closing hm rfl (ih.1 hds)
  | case4 n c s hopen hclose ih =>
      have hpos := c.utf8Size_pos
      constructor
      · intro h
        exact .outside hopen hclose (lt_start_of_delimiters hpos) (ih.1 h)
      · intro m d ds hm h hd hds
        have hle : n + c.utf8Size ≤ d.offset := le_offset (s := s) (by simp [h])
        exact .inside hopen hclose hm (by simp only; omega) (ih.2 (by omega) h hd hds)

/-! ## Blanking out -/

/-- The text with spaces for its comments, `inside` telling whether one is open. -/
def strip (inside : Bool) : List Char → List Char
  | [] => []
  | '/' :: '*' :: s => ' ' :: ' ' :: strip true s
  | '*' :: '/' :: s => ' ' :: ' ' :: strip false s
  | c :: s => (if inside then List.replicate c.utf8Size ' ' else [c]) ++ strip inside s

theorem blankOut_outside {n : Nat} {spans : List Span} {c : Char} {s : List Char}
    (h : ∀ span ∈ spans, n < span.start) :
    blankOut n spans (c :: s) = c :: blankOut (n + c.utf8Size) spans s := by
  cases spans with
  | nil => cases s <;> simp [blankOut]
  | cons span spans => simp [blankOut, h span]

theorem blankOut_inside {n : Nat} {span : Span} {spans : List Span} {c : Char} {s : List Char}
    (h : span.start ≤ n) (hn : n + c.utf8Size < span.stop) :
    blankOut n (span :: spans) (c :: s) =
      List.replicate c.utf8Size ' ' ++ blankOut (n + c.utf8Size) (span :: spans) s := by
  simp [blankOut, Nat.not_lt.mpr h, hn]

theorem blankOut_last {n : Nat} {span : Span} {spans : List Span} {c : Char} {s : List Char}
    (h : span.start ≤ n) (hn : span.stop ≤ n + c.utf8Size) :
    blankOut n (span :: spans) (c :: s) =
      List.replicate c.utf8Size ' ' ++ blankOut (n + c.utf8Size) spans s := by
  simp [blankOut, Nat.not_lt.mpr h, Nat.not_lt.mpr hn]

theorem utf8Size_slash : '/'.utf8Size = 1 := by decide

theorem utf8Size_star : '*'.utf8Size = 1 := by decide

theorem isBlank_space : isBlank ' ' = true := by decide

variable {n : Nat} {inside : Bool} {spans : List Span} {s : List Char}

theorem Scan.blankOut_eq (h : Scan n inside spans s) : blankOut n spans s = strip inside s := by
  induction h with
  | nil => simp [blankOut, strip]
  | @opening n _ _ _ hstart hstop h ih =>
      rw [blankOut_inside (by omega) (by rw [utf8Size_slash]; omega), utf8Size_slash,
        blankOut_inside (by omega) (by rw [utf8Size_star]; omega), utf8Size_star, ih, strip]
      rfl
  | closing hstart hstop h ih =>
      rw [blankOut_inside hstart (by rw [utf8Size_star]; omega), utf8Size_star,
        blankOut_last (by omega) (by rw [utf8Size_slash]; omega), utf8Size_slash, ih, strip]
      rfl
  | outside hopen hclose hspans h ih =>
      rw [blankOut_outside hspans, ih, strip.eq_4 _ _ _ hopen hclose]
      rfl
  | inside hopen hclose hstart hstop h ih =>
      rw [blankOut_inside hstart hstop, ih, strip.eq_4 _ _ _ hopen hclose]
      rfl

/-! ## What stands outside comments -/

/-- Some character that is no white space stands outside the comments of a text that starts
at `n`. -/
def Shows (n : Nat) (spans : List Span) (s : List Char) : Prop :=
  ∃ u c v, s = u ++ c :: v ∧ isBlank c = false ∧
    ∀ span ∈ spans, n + utf8Length u < span.start ∨ span.stop ≤ n + utf8Length u

theorem not_shows_nil (n : Nat) (spans : List Span) : ¬ Shows n spans [] := by
  rintro ⟨u, c, v, h, -⟩
  simp at h

theorem shows_cons {c : Char} : Shows n spans (c :: s) ↔
    (isBlank c = false ∧ ∀ span ∈ spans, n < span.start ∨ span.stop ≤ n) ∨
      Shows (n + c.utf8Size) spans s := by
  constructor
  · rintro ⟨u, d, v, h, hd, hspans⟩
    cases u with
    | nil =>
        cases h
        exact .inl ⟨hd, hspans⟩
    | cons a u =>
        cases h
        exact .inr ⟨u, d, v, rfl, hd, by simpa [utf8Length, Nat.add_assoc] using hspans⟩
  · rintro (⟨hc, hspans⟩ | ⟨u, d, v, rfl, hd, hspans⟩)
    · exact ⟨[], c, s, rfl, hc, hspans⟩
    · exact ⟨c :: u, d, v, rfl, hd, by simpa [utf8Length, Nat.add_assoc] using hspans⟩

theorem shows_outside {c : Char} (h : ∀ span ∈ spans, n < span.start) :
    Shows n spans (c :: s) ↔ isBlank c = false ∨ Shows (n + c.utf8Size) spans s := by
  have : ∀ span ∈ spans, n < span.start ∨ span.stop ≤ n := fun span hs => .inl (h span hs)
  rw [shows_cons, and_iff_left this]

theorem shows_inside {span : Span} {c : Char} (h : span.start ≤ n) (hn : n < span.stop) :
    Shows n (span :: spans) (c :: s) ↔ Shows (n + c.utf8Size) (span :: spans) s := by
  rw [shows_cons, or_iff_right]
  rintro ⟨-, hspans⟩
  have := hspans span List.mem_cons_self
  omega

/-- A comment that has ended covers nothing. -/
theorem shows_of_stop_le {span : Span} (h : span.stop ≤ n) :
    Shows n (span :: spans) s ↔ Shows n spans s := by
  have (k : Nat) : span.stop ≤ n + k := by omega
  simp [Shows, this]

theorem Scan.shows_iff (h : Scan n inside spans s) :
    Shows n spans s ↔ ∃ c ∈ strip inside s, isBlank c = false := by
  induction h with
  | nil => simp [not_shows_nil, strip]
  | @opening n _ _ _ hstart hstop h ih =>
      rw [shows_inside (by omega) (by omega), utf8Size_slash,
        shows_inside (by omega) (by omega), utf8Size_star, ih]
      simp [strip, isBlank_space]
  | closing hstart hstop h ih =>
      rw [shows_inside hstart (by omega), utf8Size_star,
        shows_inside (by omega) (by omega), utf8Size_slash, shows_of_stop_le (by omega), ih]
      simp [strip, isBlank_space]
  | outside hopen hclose hspans h ih =>
      rw [shows_outside hspans, ih, strip.eq_4 _ _ _ hopen hclose]
      simp
  | inside hopen hclose hstart hstop h ih =>
      rw [shows_inside hstart (by omega), ih, strip.eq_4 _ _ _ hopen hclose]
      simp [isBlank_space, or_and_right, exists_or]

end SqlGateway.Sql
