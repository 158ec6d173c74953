import Mathlib.Data.List.Induction
import SqlGateway.Proofs.Sql.Placeholder

/-!
# Bindings that are accepted

Bindings are looked at in their order. One is rejected if it has no value, or if it differs from the
first of its name; the first that is rejected gives the error, whatever the text. Where equality is
that of the values themselves, a list is accepted if all bindings of one name are the same, so that
neither their order nor their number counts.
-/

namespace SqlGateway.Sql

variable {α : Type} {bindings before others : Bindings α} {entry : String × Binding α}

/-! ## The first binding of a name -/

theorem firstBound_append (first second : Bindings α) (name : String) :
    firstBound (first ++ second) name = (firstBound first name).or (firstBound second name) := by
  unfold firstBound
  rw [List.find?_append]
  cases first.find? fun entry => canonicalName entry.1 == name <;> rfl

theorem exists_of_firstBound {name : String} {binding : Binding α}
    (h : firstBound bindings name = some binding) :
    ∃ entry ∈ bindings, canonicalName entry.1 = name ∧ entry.2 = binding := by
  obtain ⟨entry, hentry, rfl⟩ := Option.map_eq_some_iff.mp h
  exact ⟨entry, List.mem_of_find?_eq_some hentry, by simpa using List.find?_some hentry, rfl⟩

theorem written_congr {first second : Bindings α}
    (h : ∀ word, boundTo second word = boundTo first word) : written second = written first := by
  funext p
  cases p <;> simp only [written, h]

theorem taken_congr {first second : Bindings α}
    (h : ∀ word, boundTo second word = boundTo first word) : taken second = taken first := by
  funext p
  cases p <;> simp only [taken, h]

/-! ## What is rejected -/

variable [BEq α]

/-- An entry is rejected after those before it, for the reason given. -/
inductive Rejected (before : Bindings α) (entry : String × Binding α) : Misuse → Prop
  | empty (h : entry.2.values = []) : Rejected before entry (.emptyBinding (canonicalName entry.1))
  | ambiguous {first : Binding α} (hvalues : entry.2.values ≠ [])
      (hfirst : firstBound before (canonicalName entry.1) = some first)
      (hdiffers : (first == entry.2) = false) :
      Rejected before entry (.ambiguousBinding (canonicalName entry.1))

/-- No entry is rejected after those before it. -/
def Accepted (bindings : Bindings α) : Prop :=
  ∀ before entry after, bindings = before ++ entry :: after →
    ∀ reason, ¬ Rejected before entry reason

theorem exists_rejected_iff : (∃ reason, Rejected before entry reason) ↔ entry.2.values = [] ∨
    ∃ first, firstBound before (canonicalName entry.1) = some first ∧
      (first == entry.2) = false := by
  constructor
  · rintro ⟨reason, h⟩
    cases h with
    | empty h => exact .inl h
    | ambiguous _ hfirst hdiffers => exact .inr ⟨_, hfirst, hdiffers⟩
  · intro h
    by_cases hvalues : entry.2.values = []
    · exact ⟨_, .empty hvalues⟩
    · obtain ⟨first, hfirst, hdiffers⟩ := h.resolve_left hvalues
      exact ⟨_, .ambiguous hvalues hfirst hdiffers⟩

theorem not_accepted_iff : ¬ Accepted bindings ↔ ∃ before entry after,
    bindings = before ++ entry :: after ∧ ∃ reason, Rejected before entry reason := by
  simp [Accepted]

theorem accepted_nil : Accepted ([] : Bindings α) := by
  intro before entry after h
  simp at h

theorem accepted_concat : Accepted (bindings ++ [entry]) ↔
    Accepted bindings ∧ ∀ reason, ¬ Rejected bindings entry reason := by
  constructor
  · intro h
    refine ⟨fun before other after heq => ?_, h bindings entry [] rfl⟩
    exact h before other (after ++ [entry]) (by simp [heq])
  · rintro ⟨h, hentry⟩ before other after heq
    rcases List.eq_nil_or_concat after with rfl | ⟨rest, last, rfl⟩
    · obtain ⟨rfl, hlast⟩ := List.append_inj' heq rfl
      cases hlast
      exact hentry
    · rw [List.concat_eq_append, ← List.cons_append, ← List.append_assoc] at heq
      exact h before other rest (List.append_inj' heq rfl).1

/-! ## The check of a list -/

theorem canonicalBindings_append (first second : Bindings α) :
    canonicalBindings (first ++ second) =
      canonicalBindings first >>= fun known => second.foldlM addBinding known := by
  simp [canonicalBindings_eq, List.foldlM_append]

theorem addBinding_eq_error_iff {known : Bindings α} (h : canonicalBindings before = .ok known)
    (entry : String × Binding α) (reason : Misuse) :
    addBinding known entry = .error reason ↔ Rejected before entry reason := by
  simp only [addBinding, lookup_canonicalBindings h]
  constructor
  · intro herror
    split at herror
    · rename_i hempty
      cases herror
      exact .empty (by simpa [Binding.isEmpty] using hempty)
    · rename_i hempty
      split at herror
      · rename_i first hfirst
        split at herror
        · cases herror
        · rename_i hdiffers
          cases herror
          exact .ambiguous (by simpa [Binding.isEmpty] using hempty) hfirst
            (by simpa using hdiffers)
      · cases herror
  · intro hrejected
    cases hrejected with
    | empty h => simp [Binding.isEmpty, h]
    | ambiguous hvalues hfirst hdiffers => simp [Binding.isEmpty, hvalues, hfirst, hdiffers]

theorem accepted_iff : Accepted bindings ↔ ∃ known, canonicalBindings bindings = .ok known := by
  induction bindings using List.reverseRecOn with
  | nil => exact ⟨fun _ => ⟨[], rfl⟩, fun _ => accepted_nil⟩
  | append_singleton bindings entry ih =>
      rw [accepted_concat, ih, canonicalBindings_append]
      cases h : canonicalBindings bindings with
      | error reason => simp [bind, Except.bind]
      | ok known =>
          have hentry := addBinding_eq_error_iff h entry
          simp only [bind, Except.bind, List.foldlM_cons, List.foldlM_nil, ← hentry]
          cases addBinding known entry <;> simp [pure, Except.pure]

/-- The error is that of the first entry that is rejected. -/
theorem canonicalBindings_eq_error_iff {reason : Misuse} :
    canonicalBindings bindings = .error reason ↔ ∃ before entry after,
      bindings = before ++ entry :: after ∧ Accepted before ∧ Rejected before entry reason := by
  constructor
  · intro h
    induction bindings using List.reverseRecOn with
    | nil => cases h
    | append_singleton bindings entry ih =>
        rw [canonicalBindings_append] at h
        cases hbefore : canonicalBindings bindings with
        | error other =>
            rw [hbefore] at h
            cases h
            obtain ⟨before, rejected, after, rfl, hrejected⟩ := ih hbefore
            exact ⟨before, rejected, after ++ [entry], by simp, hrejected⟩
        | ok known =>
            have hadd : addBinding known entry = .error reason := by
              cases hadd : addBinding known entry <;>
                simp_all [bind, Except.bind, pure, Except.pure]
            exact ⟨bindings, entry, [], rfl, accepted_iff.mpr ⟨known, hbefore⟩,
              (addBinding_eq_error_iff hbefore entry reason).mp hadd⟩
  · rintro ⟨before, entry, after, rfl, hbefore, hrejected⟩
    obtain ⟨known, hknown⟩ := accepted_iff.mp hbefore
    rw [canonicalBindings_append, hknown]
    simp only [bind, Except.bind, List.foldlM_cons,
      (addBinding_eq_error_iff hknown entry reason).mpr hrejected]

theorem resolve_eq_error_iff {sql : String} {e : Error} : resolve sql bindings = .error e ↔
    ∃ reason, canonicalBindings bindings = .error reason ∧ e = .misuse reason := by
  unfold resolve
  cases canonicalBindings bindings <;> simp [eq_comm]

theorem resolve_eq_ok_iff_accepted {sql : String} {r : Resolved α} :
    resolve sql bindings = .ok r ↔ Accepted bindings ∧
      r.sql.toList = (pieces sql.toList).flatMap (written bindings) ∧
      r.values = (pieces sql.toList).flatMap (taken bindings) := by
  rw [resolve_eq_ok_iff, accepted_iff]

theorem exists_resolve_iff (sql : String) : (∃ r, resolve sql bindings = .ok r) ↔
    Accepted bindings := by
  rw [accepted_iff]
  unfold resolve
  cases canonicalBindings bindings <;> simp

theorem Accepted.filled (h : Accepted bindings) : Filled bindings := by
  obtain ⟨known, hknown⟩ := accepted_iff.mp h
  exact filled_of_canonicalBindings hknown

theorem exists_resolve_error_iff (sql : String) :
    (∃ e, resolve sql bindings = .error e) ↔ ¬ Accepted bindings := by
  rw [← exists_resolve_iff sql]
  cases resolve sql bindings <;> simp

/-! ## Order and number -/

/-- The same names are bound to the same, whatever the order and number of the entries and the
spelling of the names. -/
def SameEntries (bindings others : Bindings α) : Prop :=
  ∀ name binding, (∃ entry ∈ bindings, canonicalName entry.1 = name ∧ entry.2 = binding) ↔
    ∃ entry ∈ others, canonicalName entry.1 = name ∧ entry.2 = binding

instance [LawfulBEq α] : LawfulBEq (Binding α) where
  rfl {binding} := by
    cases binding with
    | one a => exact beq_self_eq_true a
    | many as => exact beq_self_eq_true as
  eq_of_beq {first second} h := by
    cases first <;> cases second
    case one.one => exact congrArg _ (eq_of_beq h)
    case many.many => exact congrArg _ (eq_of_beq h)
    all_goals cases h

/-- All entries of one name are the same if equality is that of the values. -/
theorem accepted_iff_firstBound [LawfulBEq α] : Accepted bindings ↔ ∀ entry ∈ bindings,
    entry.2.values ≠ [] ∧ firstBound bindings (canonicalName entry.1) = some entry.2 := by
  constructor
  · intro h entry hentry
    obtain ⟨before, after, rfl⟩ := List.append_of_mem hentry
    have hentry : ¬ ∃ reason, Rejected before entry reason := fun ⟨reason, hr⟩ =>
      h before entry after rfl reason hr
    rw [exists_rejected_iff] at hentry
    push Not at hentry
    refine ⟨hentry.1, ?_⟩
    rw [firstBound_append, firstBound_cons]
    cases hfirst : firstBound before (canonicalName entry.1) with
    | none => simp
    | some first => simpa using hentry.2 first hfirst
  · rintro h before entry after rfl reason hrejected
    obtain ⟨hvalues, hbound⟩ := h entry (by simp)
    rcases exists_rejected_iff.mp ⟨reason, hrejected⟩ with hempty | ⟨first, hfirst, hdiffers⟩
    · exact hvalues hempty
    · rw [firstBound_append, hfirst] at hbound
      cases hbound
      simp at hdiffers

omit [BEq α] in
theorem SameEntries.symm (h : SameEntries bindings others) : SameEntries others bindings :=
  fun name binding => (h name binding).symm

theorem SameEntries.accepted [LawfulBEq α] (h : SameEntries bindings others)
    (haccepted : Accepted bindings) : Accepted others := by
  rw [accepted_iff_firstBound] at haccepted ⊢
  intro entry hentry
  obtain ⟨same, hsame, hname, hbinding⟩ :=
    (h (canonicalName entry.1) entry.2).mpr ⟨entry, hentry, rfl, rfl⟩
  obtain ⟨hvalues, hbound⟩ := haccepted same hsame
  rw [hname, hbinding] at hbound
  refine ⟨hbinding ▸ hvalues, ?_⟩
  cases hfirst : firstBound others (canonicalName entry.1) with
  | none => exact absurd rfl (firstBound_eq_none_iff.mp hfirst entry hentry)
  | some first =>
      -- the first of that name is an entry of both lists, and all such entries are the same
      obtain ⟨entry', hentry', hname', rfl⟩ := (h _ _).mpr (exists_of_firstBound hfirst)
      have hbound' := (haccepted entry' hentry').2
      rw [hname', hbound] at hbound'
      exact hbound'.symm

theorem SameEntries.firstBound_eq [LawfulBEq α] (h : SameEntries bindings others)
    (haccepted : Accepted bindings) (name : String) :
    firstBound others name = firstBound bindings name := by
  cases hfirst : firstBound others name with
  | none =>
      refine (firstBound_eq_none_iff.mpr fun entry hentry hname => ?_).symm
      obtain ⟨same, hsame, hname', -⟩ := (h _ _).mp ⟨entry, hentry, hname, rfl⟩
      exact firstBound_eq_none_iff.mp hfirst same hsame hname'
  | some first =>
      obtain ⟨entry, hentry, rfl, rfl⟩ := (h _ _).mpr (exists_of_firstBound hfirst)
      exact ((accepted_iff_firstBound.mp haccepted entry hentry).2).symm

theorem SameEntries.resolve_of_resolve [LawfulBEq α] (h : SameEntries bindings others)
    {sql : String} {r : Resolved α} (hr : resolve sql bindings = .ok r) :
    resolve sql others = .ok r := by
  obtain ⟨haccepted, hsql, hvalues⟩ := resolve_eq_ok_iff_accepted.mp hr
  have hbound (word : List Char) : boundTo others word = boundTo bindings word :=
    h.firstBound_eq haccepted _
  refine resolve_eq_ok_iff_accepted.mpr ⟨h.accepted haccepted, ?_, ?_⟩
  · rw [hsql, written_congr hbound]
  · rw [hvalues, taken_congr hbound]

/-- Bindings are refused for the first entry that is empty or differs from the first of its name,
whatever the text. If equality is that of the values, the order of the entries, their number and the
spelling of their names make no difference. -/
theorem resolve_refuses_first (bindings : Bindings α) :
    (∀ sql e, resolve sql bindings = .error e ↔ ∃ before entry after reason,
      bindings = before ++ entry :: after ∧ Accepted before ∧ Rejected before entry reason ∧
        e = .misuse reason) ∧
    (∀ sql, (∃ e, resolve sql bindings = .error e) ↔
      (∃ entry ∈ bindings, entry.2.values = []) ∨
        ∃ before entry after first, bindings = before ++ entry :: after ∧
          firstBound before (canonicalName entry.1) = some first ∧ (first == entry.2) = false) ∧
    ∀ [LawfulBEq α] (others : Bindings α), SameEntries bindings others →
      ∀ sql r, resolve sql others = .ok r ↔ resolve sql bindings = .ok r := by
  refine ⟨fun sql e => ?_, fun sql => ?_, fun others h sql r =>
    ⟨h.symm.resolve_of_resolve, h.resolve_of_resolve⟩⟩
  · simp only [resolve_eq_error_iff, canonicalBindings_eq_error_iff]
    constructor
    · rintro ⟨reason, ⟨before, entry, after, hsplit, hbefore, hrejected⟩, rfl⟩
      exact ⟨before, entry, after, reason, hsplit, hbefore, hrejected, rfl⟩
    · rintro ⟨before, entry, after, reason, hsplit, hbefore, hrejected, rfl⟩
      exact ⟨reason, ⟨before, entry, after, hsplit, hbefore, hrejected⟩, rfl⟩
  · rw [exists_resolve_error_iff, not_accepted_iff]
    constructor
    · rintro ⟨before, entry, after, rfl, hrejected⟩
      rcases exists_rejected_iff.mp hrejected with hempty | ⟨first, hfirst, hdiffers⟩
      · exact .inl ⟨entry, by simp, hempty⟩
      · exact .inr ⟨before, entry, after, first, rfl, hfirst, hdiffers⟩
    · rintro (⟨entry, hentry, hempty⟩ | ⟨before, entry, after, first, rfl, hfirst, hdiffers⟩)
      · obtain ⟨before, after, rfl⟩ := List.append_of_mem hentry
        exact ⟨before, entry, after, rfl, exists_rejected_iff.mpr (.inl hempty)⟩
      · exact ⟨before, entry, after, rfl, exists_rejected_iff.mpr (.inr ⟨first, hfirst, hdiffers⟩)⟩

/-- A name that is given twice, in two spellings, and once in another list in another order. -/
theorem resolve_refuses_first_repeated :
    let bindings : Bindings Nat := [("a", .one 1), ("b", .many [2, 3]), (" :a", .one 1)]
    let others : Bindings Nat := [("b ", .many [2, 3]), (":a", .one 1)]
    SameEntries bindings others ∧ resolve ":a :b" bindings = .ok ⟨"? ?, ?", [1, 2, 3]⟩ ∧
      resolve ":a :b" others = .ok ⟨"? ?, ?", [1, 2, 3]⟩ := by
  intro bindings others
  have hsame : SameEntries bindings others := by
    have ha : canonicalName "a" = ":a" := rfl
    have hb : canonicalName "b" = ":b" := rfl
    have ha' : canonicalName " :a" = ":a" := rfl
    have hb' : canonicalName "b " = ":b" := rfl
    have ha'' : canonicalName ":a" = ":a" := rfl
    intro name binding
    simp only [bindings, others, List.mem_cons, List.not_mem_nil, or_false, exists_eq_or_imp,
      exists_eq_left, ha, hb, ha', hb', ha'']
    tauto
  have hpieces : pieces ":a :b".toList =
      [.placeholder ['a'], .plain ' ', .placeholder ['b']] := by
    have ha : Text.isWord 'a' = true := by decide
    have hb : Text.isWord 'b' = true := by decide
    have hspace : Text.isWord ' ' = false := by decide
    simp [pieces, ha, hb, hspace]
  have hresolve : resolve ":a :b" bindings = .ok ⟨"? ?, ?", [1, 2, 3]⟩ := by
    rw [resolve_eq_ok_iff, hpieces]
    exact ⟨⟨_, rfl⟩, by decide, by decide⟩
  exact ⟨hsame, hresolve, ((resolve_refuses_first bindings).2.2 others hsame _ _).mpr hresolve⟩

/-- The first entry at fault decides, and of its faults that it has no value. -/
example : resolve "" [("a", .one 1), ("b", .one 2), (":a ", .many []), ("b", .one 3)] =
    .error (.misuse (.emptyBinding ":a")) :=
  rfl

end SqlGateway.Sql
