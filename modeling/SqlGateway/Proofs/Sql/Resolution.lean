import SqlGateway.Proofs.Sql.Placeholder

/-!
# Question marks and their values

The values of a resolved text line up with its question marks. A text may have question marks of its
own; the one for the `j`-th value has before it one for each earlier value, and those of the text
that stand before the placeholder it was written for.
-/

namespace SqlGateway.Sql

open Text

variable {α : Type}

/-- Where the `j`-th value comes from: it is a value of what a placeholder of the text is bound
to. -/
structure Origin (bindings : Bindings α) (ps : List Piece) (j : Nat) where
  before : List Piece
  word : List Char
  after : List Piece
  binding : Binding α
  nth : Nat
  split : ps = before ++ .placeholder word :: after
  bound : boundTo bindings word = some binding
  lt : nth < binding.values.length
  index : j = (before.flatMap (taken bindings)).length + nth

namespace Origin

variable {bindings : Bindings α} {ps : List Piece} {j : Nat}

/-- Where the question mark for the value stands in the resolved text. A question mark that is not
the last of its placeholder is followed by a comma and a space. -/
def mark (o : Origin bindings ps j) : Nat :=
  (o.before.flatMap (written bindings)).length + 3 * o.nth

/-- The number of question marks the text itself has before the placeholder. -/
def own (o : Origin bindings ps j) : Nat :=
  (o.before.flatMap Piece.text).count '?'

def later (p : Piece) (o : Origin bindings ps j) :
    Origin bindings (p :: ps) ((taken bindings p).length + j) :=
  { o with
    before := p :: o.before
    split := congrArg (p :: ·) o.split
    index := by
      have := o.index
      simp only [List.flatMap_cons, List.length_append]
      omega }

end Origin

/-- What resolving a text with bindings gives. -/
structure Aligned (bindings : Bindings α) (sql : List Char) (ps : List Piece) (out : List Char)
    (values : List α) : Prop where
  splits : Splits sql ps
  unique : ∀ qs, Splits sql qs → qs = ps
  out_eq : out = ps.flatMap (written bindings)
  values_eq : values = ps.flatMap (taken bindings)
  origin : ∀ j < values.length, Nonempty (Origin bindings ps j)
  value : ∀ {j} (o : Origin bindings ps j), values[j]? = some (o.binding.values.get ⟨o.nth, o.lt⟩)
  mark : ∀ {j} (o : Origin bindings ps j),
    out[o.mark]? = some '?' ∧ (out.take o.mark).count '?' = j + o.own
  count : out.count '?' = sql.count '?' + values.length

/-! ## Question marks of a placeholder -/

/-- The first question marks of a placeholder, each with what divides it from the next. -/
def marksBefore (i : Nat) : List Char :=
  (List.replicate i ['?', ',', ' ']).flatten

theorem marksBefore_succ (i : Nat) : marksBefore (i + 1) = '?' :: ',' :: ' ' :: marksBefore i := by
  simp [marksBefore, List.replicate_succ]

theorem length_marksBefore (i : Nat) : (marksBefore i).length = 3 * i := by
  simp [marksBefore, Nat.mul_comm]

theorem count_marksBefore (i : Nat) : (marksBefore i).count '?' = i := by
  induction i with
  | zero => rfl
  | succ i ih => simp [marksBefore_succ, ih]

theorem marks_split {i n : Nat} (h : i < n) : ∃ rest, marks n = marksBefore i ++ '?' :: rest := by
  induction i generalizing n with
  | zero => exact marks_of_pos h
  | succ i ih =>
      match n with
      | n + 2 =>
          obtain ⟨rest, hrest⟩ := ih (n := n + 1) (by omega)
          exact ⟨rest, by simp [marks_add_two, marksBefore_succ, hrest]⟩

theorem count_marks (n : Nat) : (marks n).count '?' = n := by
  induction n using questionMarks.induct with
  | case1 => rfl
  | case2 => rfl
  | case3 n hn ih =>
      obtain ⟨m, rfl⟩ := Nat.exists_eq_succ_of_ne_zero hn
      simp [marks_add_two, ih]

/-! ## Counting -/

variable {bindings : Bindings α} {sql : List Char} {ps : List Piece} {j : Nat}

theorem Splits.not_mem_word (h : Splits sql ps) {word : List Char}
    (hw : .placeholder word ∈ ps) : '?' ∉ word :=
  fun hmark => absurd (h.isWord hw '?' hmark) (by decide)

/-- A piece has in the resolved text its own question marks and one for each value it takes. -/
theorem count_written {p : Piece} (hp : ∀ word, p = .placeholder word → '?' ∉ word) :
    (written bindings p).count '?' = p.text.count '?' + (taken bindings p).length := by
  cases p with
  | plain c => simp [written, taken, Piece.text]
  | placeholder word =>
      have hword : (':' :: word).count '?' = 0 := by
        simpa [List.count_eq_zero] using hp word rfl
      simp only [Piece.text, hword, written, taken]
      cases boundTo bindings word with
      | none => simpa using hword
      | some binding => simp [count_marks]

theorem count_flatMap_written (hps : ∀ word, .placeholder word ∈ ps → '?' ∉ word) :
    (ps.flatMap (written bindings)).count '?' =
      (ps.flatMap Piece.text).count '?' + (ps.flatMap (taken bindings)).length := by
  induction ps with
  | nil => rfl
  | cons p ps ih =>
      have hp : ∀ word, p = .placeholder word → '?' ∉ word := fun word h => hps word (by simp [h])
      have ih := ih fun word h => hps word (List.mem_cons_of_mem p h)
      simp only [List.flatMap_cons, List.count_append, List.length_append, ih,
        count_written hp]
      omega

/-! ## Origins -/

theorem origin_of_lt (h : j < (ps.flatMap (taken bindings)).length) :
    Nonempty (Origin bindings ps j) := by
  induction ps generalizing j with
  | nil => simp at h
  | cons p ps ih =>
      rw [List.flatMap_cons, List.length_append] at h
      by_cases hj : j < (taken bindings p).length
      · cases p with
        | plain c => simp [taken] at hj
        | placeholder word =>
            simp only [taken] at hj
            cases hbound : boundTo bindings word with
            | none => simp [hbound] at hj
            | some binding =>
                rw [hbound] at hj
                exact ⟨⟨[], word, ps, binding, j, rfl, hbound, hj, by simp⟩⟩
      · obtain ⟨k, rfl⟩ := Nat.exists_eq_add_of_le (Nat.not_lt.mp hj)
        exact (ih (by omega)).map (·.later p)

namespace Origin

variable (o : Origin bindings ps j)

theorem taken_split : ps.flatMap (taken bindings) = o.before.flatMap (taken bindings) ++
    (o.binding.values ++ o.after.flatMap (taken bindings)) := by
  have htaken : taken bindings (.placeholder o.word) = o.binding.values := by
    simp [taken, o.bound]
  rw [← htaken]
  exact (congrArg _ o.split).trans (by simp)

theorem written_split : ∃ rest, ps.flatMap (written bindings) =
    (o.before.flatMap (written bindings) ++ marksBefore o.nth) ++ '?' :: rest := by
  have hwritten : written bindings (.placeholder o.word) = marks o.binding.values.length := by
    simp [written, o.bound]
  obtain ⟨rest, hrest⟩ := marks_split o.lt
  refine ⟨rest ++ o.after.flatMap (written bindings), ?_⟩
  exact (congrArg _ o.split).trans (by simp [hwritten, hrest])

theorem value_eq : (ps.flatMap (taken bindings))[j]? =
    some (o.binding.values.get ⟨o.nth, o.lt⟩) := by
  have hj := o.index
  rw [o.taken_split, List.getElem?_append_right (by omega),
    List.getElem?_append_left (by have := o.lt; omega),
    show j - (o.before.flatMap (taken bindings)).length = o.nth by omega]
  exact List.getElem?_eq_getElem o.lt

theorem mark_eq (hps : ∀ word, .placeholder word ∈ ps → '?' ∉ word) :
    (ps.flatMap (written bindings))[o.mark]? = some '?' ∧
      ((ps.flatMap (written bindings)).take o.mark).count '?' = j + o.own := by
  obtain ⟨rest, hrest⟩ := o.written_split
  have hmark : o.mark = (o.before.flatMap (written bindings) ++ marksBefore o.nth).length := by
    simp [mark, length_marksBefore]
  have hbefore : ∀ word, .placeholder word ∈ o.before → '?' ∉ word := fun word hw =>
    hps word (by rw [o.split]; exact List.mem_append_left _ hw)
  rw [hrest, hmark]
  constructor
  · simp
  · have hj := o.index
    rw [List.take_left, List.count_append, count_flatMap_written hbefore, count_marksBefore, own]
    omega

end Origin

/-- Resolving replaces each placeholder that is bound, and nothing else, and its values line up with
the question marks. -/
theorem resolve_aligned [BEq α] {sql : String} {bindings : Bindings α} {r : Resolved α}
    (h : resolve sql bindings = .ok r) :
    ∃ ps, Aligned bindings sql.toList ps r.sql.toList r.values := by
  obtain ⟨-, hout, hvalues⟩ := resolve_eq_ok_iff.mp h
  have hsplits := splits_pieces sql.toList
  have hps : ∀ word, .placeholder word ∈ pieces sql.toList → '?' ∉ word :=
    fun word => hsplits.not_mem_word
  exact ⟨pieces sql.toList, {
    splits := hsplits
    unique := fun qs hqs => hqs.eq_pieces
    out_eq := hout
    values_eq := hvalues
    origin := fun j hj => origin_of_lt (hvalues ▸ hj)
    value := fun o => hvalues ▸ o.value_eq
    mark := fun o => hout ▸ o.mark_eq hps
    count := by rw [hout, hvalues, count_flatMap_written hps, hsplits.flatMap_text] }⟩

/-- A text with a question mark of its own, a name that starts as another does, a bare colon and a
name that is not bound. -/
theorem resolve_aligned_own_mark :
    let bindings : Bindings Nat := [("ab", .many [1, 2]), (" :a", .one 3)]
    resolve "? :ab, :a::c" bindings = .ok ⟨"? ?, ?, ?::c", [1, 2, 3]⟩ ∧
      ∃ ps, Aligned bindings "? :ab, :a::c".toList ps "? ?, ?, ?::c".toList [1, 2, 3] := by
  intro bindings
  have ha : isWord 'a' = true := by decide
  have hb : isWord 'b' = true := by decide
  have hc : isWord 'c' = true := by decide
  have hcomma : isWord ',' = false := by decide
  have hcolon : isWord ':' = false := by decide
  have hpieces : pieces "? :ab, :a::c".toList =
      [.plain '?', .plain ' ', .placeholder ['a', 'b'], .plain ',', .plain ' ',
        .placeholder ['a'], .placeholder [], .placeholder ['c']] := by
    simp [pieces, ha, hb, hc, hcomma, hcolon]
  have h : resolve "? :ab, :a::c" bindings = .ok ⟨"? ?, ?, ?::c", [1, 2, 3]⟩ := by
    rw [resolve_eq_ok_iff, hpieces]
    exact ⟨⟨_, rfl⟩, by decide, by decide⟩
  exact ⟨h, resolve_aligned h⟩

end SqlGateway.Sql
