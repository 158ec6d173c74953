import SqlGateway.Proofs.Gateway.Build
import SqlGateway.Proofs.Sql.Binding
import SqlGateway.Proofs.Sql.Normal

/-!
# Spellings of call parameters

A named call parameter is bound as a whole, its name included. What is found for a placeholder goes
by the canonical name alone; only a parameter that repeats a name has to spell it as the first of
that name does. Parameters that spell each name in one way are resolved as their canonical forms
are.
-/

namespace SqlGateway

/-- The parameter with its name in canonical form. -/
def Parameter.canonical (p : Parameter) : Parameter :=
  { p with name := canonicalName p.name }

namespace Sql

variable {params others : List Parameter}

/-- Each name is spelled in one way. -/
def SpelledAlike (params : List Parameter) : Prop :=
  ∀ p ∈ params, ∀ q ∈ params, canonicalName q.name = canonicalName p.name → q.name = p.name

/-- The bindings that named call parameters stand for. -/
def callBindings (params : List Parameter) : Bindings Parameter :=
  params.map fun p => (p.name, .one p)

/-- The first parameter of a name in canonical form. -/
def firstNamed (params : List Parameter) (name : String) : Option Parameter :=
  params.find? fun p => canonicalName p.name == name

/-! ## Canonical names -/

theorem toList_canonicalName (name : String) : ∃ word, (canonicalName name).toList = ':' :: word ∧
    ∀ c ∈ (':' :: word).getLast?, Text.isBlank c = false := by
  unfold canonicalName
  split
  · rename_i word hword
    refine ⟨word, by simp, fun c hc => ?_⟩
    rw [← hword] at hc
    exact Text.getLast_trim hc
  · refine ⟨Text.trim name.toList, by simp, fun c hc => ?_⟩
    rw [List.getLast?_cons] at hc
    cases hlast : (Text.trim name.toList).getLast? with
    | none =>
        rw [hlast] at hc
        cases hc
        decide
    | some d =>
        rw [hlast] at hc
        cases hc
        exact Text.getLast_trim hlast

theorem canonicalName_of_trim {name : String} {word : List Char}
    (h : Text.trim name.toList = ':' :: word) : canonicalName name = .ofList (':' :: word) := by
  simp only [canonicalName, h]

theorem canonicalName_canonicalName (name : String) :
    canonicalName (canonicalName name) = canonicalName name := by
  obtain ⟨word, hword, hlast⟩ := toList_canonicalName name
  have htrim : Text.trim (canonicalName name).toList = ':' :: word := by
    rw [hword]
    exact Text.trim_of_ends (fun c hc => by cases hc; decide) hlast
  rw [canonicalName_of_trim htrim, ← hword, String.ofList_toList]

theorem isNamed_canonical (p : Parameter) : p.canonical.isNamed = true := by
  obtain ⟨word, hword, -⟩ := toList_canonicalName p.name
  have hne : canonicalName p.name ≠ "" := fun h => by simp [h] at hword
  simpa [Parameter.isNamed, Parameter.canonical] using hne

/-! ## The first of a name -/

theorem firstNamed_canonical (params : List Parameter) (name : String) :
    firstNamed (params.map Parameter.canonical) name =
      (firstNamed params name).map Parameter.canonical := by
  simp only [firstNamed, List.find?_map, Function.comp_def, Parameter.canonical,
    canonicalName_canonicalName]

theorem firstBound_callBindings (params : List Parameter) (name : String) :
    firstBound (callBindings params) name = (firstNamed params name).map .one := by
  simp [firstBound, callBindings, firstNamed, List.find?_map, Function.comp_def]

theorem boundTo_callBindings (params : List Parameter) (word : List Char) :
    boundTo (callBindings params) word = (firstNamed params (.ofList (':' :: word))).map .one :=
  firstBound_callBindings params _

theorem mem_of_firstNamed {name : String} {p : Parameter} (h : firstNamed params name = some p) :
    p ∈ params ∧ canonicalName p.name = name :=
  ⟨List.mem_of_find?_eq_some h, by simpa using List.find?_some h⟩

theorem firstNamed_append (before after : List Parameter) (name : String) :
    firstNamed (before ++ after) name = (firstNamed before name).or (firstNamed after name) :=
  List.find?_append

theorem firstNamed_self (p : Parameter) (after : List Parameter) :
    firstNamed (p :: after) (canonicalName p.name) = some p := by
  simp [firstNamed]

/-! ## Acceptance -/

/-- Each parameter is to the first of its name before it as the relation says. -/
def RepeatsBy (R : Parameter → Parameter → Prop) (params : List Parameter) : Prop :=
  ∀ before p after q, params = before ++ p :: after →
    firstNamed before (canonicalName p.name) = some q → R q p

theorem accepted_callBindings_iff :
    Accepted (callBindings params) ↔ RepeatsBy (fun q p => (q == p) = true) params := by
  constructor
  · rintro h before p after q rfl hfirst
    have haccepted := h (callBindings before) (p.name, .one p) (callBindings after)
      (by simp [callBindings])
    rw [← not_exists, exists_rejected_iff] at haccepted
    by_contra hdiffers
    refine haccepted (.inr ⟨.one q, ?_, Bool.eq_false_iff.mpr hdiffers⟩)
    rw [firstBound_callBindings, hfirst, Option.map_some]
  · intro h before entry after hsplit reason hrejected
    obtain ⟨params₁, params₂, rfl, rfl, hafter⟩ := List.map_eq_append_iff.mp hsplit
    obtain ⟨p, params₃, rfl, rfl, -⟩ := List.map_eq_cons_iff.mp hafter
    rcases exists_rejected_iff.mp ⟨reason, hrejected⟩ with hempty | ⟨first, hfirst, hdiffers⟩
    · cases hempty
    · obtain ⟨q, hq, rfl⟩ := Option.map_eq_some_iff.mp
        ((firstBound_callBindings params₁ _).symm.trans hfirst)
      exact Bool.eq_false_iff.mp hdiffers (h params₁ p params₃ q rfl hq)

theorem repeatsBy_canonical_iff {R : Parameter → Parameter → Prop} :
    RepeatsBy R (params.map Parameter.canonical) ↔
      RepeatsBy (fun q p => R q.canonical p.canonical) params := by
  constructor
  · rintro h before p after q rfl hfirst
    refine h (before.map .canonical) p.canonical (after.map .canonical) q.canonical (by simp) ?_
    rw [firstNamed_canonical, Parameter.canonical, canonicalName_canonicalName, hfirst,
      Option.map_some]
  · intro h before p' after q' hsplit hfirst
    obtain ⟨params₁, params₂, rfl, rfl, hafter⟩ := List.map_eq_append_iff.mp hsplit
    obtain ⟨p, params₃, rfl, rfl, -⟩ := List.map_eq_cons_iff.mp hafter
    rw [firstNamed_canonical, Parameter.canonical, canonicalName_canonicalName] at hfirst
    obtain ⟨q, hq, rfl⟩ := Option.map_eq_some_iff.mp hfirst
    exact h params₁ p params₃ q rfl hq

theorem spelledAlike_iff_repeatsBy :
    SpelledAlike params ↔ RepeatsBy (fun q p => q.name = p.name) params := by
  constructor
  · rintro h before p after q rfl hfirst
    obtain ⟨hq, hname⟩ := mem_of_firstNamed hfirst
    exact h p (by simp) q (List.mem_append_left _ hq) hname
  · intro h
    -- every parameter is spelled as the first of its name is
    have hfirst : ∀ p ∈ params, ∃ first, firstNamed params (canonicalName p.name) = some first ∧
        first.name = p.name := by
      intro p hp
      obtain ⟨before, after, rfl⟩ := List.append_of_mem hp
      rw [firstNamed_append]
      cases hbefore : firstNamed before (canonicalName p.name) with
      | none => exact ⟨p, firstNamed_self p after, rfl⟩
      | some first => exact ⟨first, rfl, h before p after first rfl hbefore⟩
    intro p hp q hq hname
    obtain ⟨first, hp, hpname⟩ := hfirst p hp
    obtain ⟨first', hq, hqname⟩ := hfirst q hq
    rw [hname, hp] at hq
    cases hq
    exact hqname.symm.trans hpname

theorem beq_iff {q p : Parameter} :
    (q == p) = true ↔ q.name = p.name ∧ (q.direction == p.direction) = true := by
  change (q.name == p.name && q.direction == p.direction) = true ↔ _
  simp

/-- Parameters are accepted if their canonical forms are, and no name is spelled in two ways. -/
theorem accepted_iff_canonical : Accepted (callBindings params) ↔
    SpelledAlike params ∧ Accepted (callBindings (params.map Parameter.canonical)) := by
  rw [accepted_callBindings_iff, accepted_callBindings_iff, repeatsBy_canonical_iff,
    spelledAlike_iff_repeatsBy]
  constructor
  · intro h
    refine ⟨fun before p after q hsplit hfirst => ?_, fun before p after q hsplit hfirst => ?_⟩
    · exact (beq_iff.mp (h before p after q hsplit hfirst)).1
    · have hdirection := (beq_iff.mp (h before p after q hsplit hfirst)).2
      exact beq_iff.mpr ⟨(mem_of_firstNamed hfirst).2, hdirection⟩
  · rintro ⟨hname, hcanonical⟩ before p after q hsplit hfirst
    have hdirection := (beq_iff.mp (hcanonical before p after q hsplit hfirst)).2
    exact beq_iff.mpr ⟨hname before p after q hsplit hfirst, hdirection⟩

/-! ## What is found -/

theorem firstNamed_of_respelled
    (h : others.map Parameter.canonical = params.map Parameter.canonical)
    (name : String) : (firstNamed others name).map Parameter.canonical =
      (firstNamed params name).map Parameter.canonical := by
  rw [← firstNamed_canonical, h, firstNamed_canonical]

theorem written_of_respelled (h : others.map Parameter.canonical = params.map Parameter.canonical) :
    written (callBindings others) = written (callBindings params) := by
  funext p
  cases p with
  | plain c => rfl
  | placeholder word =>
      have hfirst := firstNamed_of_respelled h (.ofList (':' :: word))
      simp only [written, boundTo_callBindings]
      cases hp : firstNamed params (.ofList (':' :: word)) <;>
        cases ho : firstNamed others (.ofList (':' :: word)) <;>
        simp_all [Binding.values]

theorem directions_of_respelled
    (h : others.map Parameter.canonical = params.map Parameter.canonical) (p : Piece) :
    (taken (callBindings others) p).map (·.direction) =
      (taken (callBindings params) p).map (·.direction) := by
  cases p with
  | plain c => rfl
  | placeholder word =>
      have hfirst := firstNamed_of_respelled h (.ofList (':' :: word))
      simp only [taken, boundTo_callBindings]
      cases hp : firstNamed params (.ofList (':' :: word)) <;>
        cases ho : firstNamed others (.ofList (':' :: word)) <;>
        simp_all [Binding.values, Parameter.canonical]

/-! ## Calls -/

theorem checkUniform_of_named (hnamed : ∀ p ∈ params, p.isNamed = true) :
    checkUniform params = .ok () := by
  have hpositional : params.any (!·.isNamed) = false := by simpa using hnamed
  unfold checkUniform
  rw [hpositional, Bool.and_false]
  rfl

theorem resolveCall_named (hnamed : ∀ p ∈ params, p.isNamed = true) (sql : String) :
    resolveCall sql params = resolve sql (callBindings params) := by
  unfold resolveCall
  rw [checkUniform_of_named hnamed]
  cases params with
  | nil =>
      refine (resolve_eq_ok_iff.mpr ⟨⟨[], rfl⟩, ?_, ?_⟩).symm
      · have hwritten : written (callBindings []) = Piece.text := by
          funext p
          cases p <;> rfl
        rw [hwritten, flatMap_text_pieces]
      · exact (List.flatMap_eq_nil_iff.mpr fun p _ => by cases p <;> rfl).symm
  | cons p params =>
      have hp : p.isNamed = true := hnamed p List.mem_cons_self
      simp only [bind, Except.bind, List.head?_cons, Option.map_some, Option.getD_some, hp, if_true]
      rfl

theorem exists_resolveCall_iff (hnamed : ∀ p ∈ params, p.isNamed = true) (sql : String) :
    (∃ r, resolveCall sql params = .ok r) ↔ Accepted (callBindings params) := by
  rw [resolveCall_named hnamed, exists_resolve_iff]

/-- Named call parameters are resolved if their canonical forms are and none repeats a name in
another spelling. However they are spelled, what they are resolved to is the same but for the
names. -/
theorem resolveCall_respelled (sql : String) (hnamed : ∀ p ∈ params, p.isNamed = true) :
    ((∃ r, resolveCall sql params = .ok r) ↔
        SpelledAlike params ∧ ∃ r, resolveCall sql (params.map Parameter.canonical) = .ok r) ∧
      ∀ others : List Parameter, (∀ p ∈ others, p.isNamed = true) →
        others.map Parameter.canonical = params.map Parameter.canonical →
        (SpelledAlike params → SpelledAlike others →
          ((∃ r, resolveCall sql others = .ok r) ↔ ∃ r, resolveCall sql params = .ok r)) ∧
        ∀ r r', resolveCall sql params = .ok r → resolveCall sql others = .ok r' →
          r'.sql = r.sql ∧ r'.values.map (·.direction) = r.values.map (·.direction) := by
  have hcanonical (ps : List Parameter) : ∀ p ∈ ps.map Parameter.canonical, p.isNamed = true := by
    intro p hp
    obtain ⟨q, -, rfl⟩ := List.mem_map.mp hp
    exact isNamed_canonical q
  have hsuccess {ps : List Parameter} (hps : ∀ p ∈ ps, p.isNamed = true) :
      (∃ r, resolveCall sql ps = .ok r) ↔
        SpelledAlike ps ∧ ∃ r, resolveCall sql (ps.map Parameter.canonical) = .ok r := by
    rw [exists_resolveCall_iff hps, exists_resolveCall_iff (hcanonical ps), accepted_iff_canonical]
  refine ⟨hsuccess hnamed, fun others hothers h =>
    ⟨fun halike halike' => ?_, fun r r' hr hr' => ?_⟩⟩
  · rw [hsuccess hothers, hsuccess hnamed, h, and_iff_right halike, and_iff_right halike']
  · rw [resolveCall_named hnamed, resolve_eq_ok_iff] at hr
    rw [resolveCall_named hothers, resolve_eq_ok_iff] at hr'
    obtain ⟨-, hsql, hvalues⟩ := hr
    obtain ⟨-, hsql', hvalues'⟩ := hr'
    constructor
    · rw [← String.toList_inj, hsql', hsql, written_of_respelled h]
    · simp only [hvalues', hvalues, List.map_flatMap, directions_of_respelled h]

/-- A name with a blank and a colon in front, repeated as it is, against its bare form. -/
theorem resolveCall_respelled_blank :
    let params : List Parameter :=
      [⟨"n", .output .integer⟩, ⟨" :i", .input (.int 1)⟩, ⟨" :i", .input (.int 1)⟩]
    let others : List Parameter :=
      [⟨":n", .output .integer⟩, ⟨"i", .input (.int 1)⟩, ⟨"i", .input (.int 1)⟩]
    resolveCall ":i:n" others =
        .ok ⟨"??", [⟨"i", .input (.int 1)⟩, ⟨":n", .output .integer⟩]⟩ ∧
      ∃ r, resolveCall ":i:n" params = .ok r ∧ r.sql = "??" ∧
        r.values.map (·.direction) = [.input (.int 1), .output .integer] := by
  intro params others
  have hparams : ∀ p ∈ params, p.isNamed = true := by decide
  have hothers : ∀ p ∈ others, p.isNamed = true := by decide
  have hi : Text.isWord 'i' = true := by decide
  have hn : Text.isWord 'n' = true := by decide
  have hcolon : Text.isWord ':' = false := by decide
  have hpieces : pieces ":i:n".toList = [.placeholder ['i'], .placeholder ['n']] := by
    simp [pieces, hi, hn, hcolon]
  have hresolve : resolveCall ":i:n" others =
      .ok ⟨"??", [⟨"i", .input (.int 1)⟩, ⟨":n", .output .integer⟩]⟩ := by
    rw [resolveCall_named hothers, resolve_eq_ok_iff, hpieces]
    exact ⟨⟨_, rfl⟩, by decide, by decide⟩
  obtain ⟨hsuccess, hsame⟩ := (resolveCall_respelled ":i:n" hparams).2 others hothers rfl
  obtain ⟨r, hr⟩ := (hsuccess (by unfold SpelledAlike; decide) (by unfold SpelledAlike; decide)).mp
    ⟨_, hresolve⟩
  obtain ⟨hsql, hvalues⟩ := hsame r _ hr hresolve
  exact ⟨hresolve, r, hr, hsql.symm, hvalues.symm⟩

/-- A parameter that repeats a name in another spelling is refused, though nothing but the spelling
tells it from the first. Values that are bound to the same two names are taken. -/
theorem respelled_repetition_refused :
    resolveCall ":a" [⟨"a", .input (.int 1)⟩, ⟨":a", .input (.int 1)⟩] =
        .error (.misuse (.ambiguousBinding ":a")) ∧
      resolveCall ":a" ([⟨"a", .input (.int 1)⟩, ⟨":a", .input (.int 1)⟩].map Parameter.canonical) =
        .ok ⟨"?", [⟨":a", .input (.int 1)⟩]⟩ ∧
      resolve ":a" [("a", .one (Value.int 1)), (":a", .one (.int 1))] = .ok ⟨"?", [.int 1]⟩ := by
  have ha : Text.isWord 'a' = true := by decide
  have hpieces : pieces ":a".toList = [.placeholder ['a']] := by simp [pieces, ha]
  refine ⟨rfl, ?_, ?_⟩
  · rw [resolveCall_named (by decide), resolve_eq_ok_iff, hpieces]
    exact ⟨⟨_, rfl⟩, by decide, by decide⟩
  · rw [resolve_eq_ok_iff, hpieces]
    exact ⟨⟨_, rfl⟩, by decide, by decide⟩

end Sql

end SqlGateway
