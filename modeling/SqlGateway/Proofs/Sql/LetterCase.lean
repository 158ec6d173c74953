import SqlGateway.Proofs.Sql.CallForm
import SqlGateway.Proofs.Text.LowerCase

/-!
# Letter case in classification

The kind of a text does not depend on the case of its letters from A to Z. A text that differs from
a call in their case alone is a call by the same rules of the grammar, and the words that make a
text a data change are found in any case of their letters, and in no other characters.
-/

namespace SqlGateway.Sql

open Text

variable {separates : Char → Prop} {s t a b : List Char} {c : Char}

/-! ## Texts up to case -/

theorem exists_append_of_foldAscii (h : foldAscii t = foldAscii (a ++ b)) :
    ∃ a' b', t = a' ++ b' ∧ foldAscii a' = foldAscii a ∧ foldAscii b' = foldAscii b := by
  rw [foldAscii, foldAscii, List.map_append] at h
  exact List.map_eq_append_iff.mp h

theorem exists_cons_of_foldAscii (h : foldAscii t = foldAscii (c :: s)) :
    ∃ c' s', t = c' :: s' ∧ c'.toLower = c.toLower ∧ foldAscii s' = foldAscii s :=
  List.map_eq_cons_iff.mp h

/-- A character that is no letter stands in its place whatever the case of the others. -/
theorem exists_mark_of_foldAscii (hc : c.isAlpha = false)
    (h : foldAscii t = foldAscii (c :: s)) : ∃ s', t = c :: s' ∧ foldAscii s' = foldAscii s := by
  obtain ⟨c', s', rfl, hfold, hs⟩ := exists_cons_of_foldAscii h
  exact ⟨s', by rw [eq_of_toLower_eq hc hfold], hs⟩

theorem forall_mem_of_foldAscii {p : Char → Bool} (hp : IgnoresCase p)
    (h : foldAscii t = foldAscii s) (hs : ∀ c ∈ s, p c = true) : ∀ c ∈ t, p c = true := by
  intro c hc
  have hfold : c.toLower ∈ foldAscii s := h ▸ List.mem_map_of_mem hc
  obtain ⟨d, hd, hlower⟩ := List.mem_map.mp hfold
  rw [← hp c, ← hlower, hp d]
  exact hs d hd

theorem eq_nil_of_foldAscii (h : foldAscii t = foldAscii []) : t = [] :=
  List.map_eq_nil_iff.mp h

/-! ## Calls -/

theorem Blanks.recased (hs : Blanks s) (h : foldAscii t = foldAscii s) : Blanks t :=
  forall_mem_of_foldAscii ignoresCase_isBlank h hs

theorem Marker.recased (hs : Marker s) (h : foldAscii t = foldAscii s) : Marker t := by
  cases hs with
  | absent =>
      obtain rfl := eq_nil_of_foldAscii h
      exact .absent
  | present ha hb =>
      obtain ⟨r, rfl, hr⟩ := exists_mark_of_foldAscii (by decide) h
      obtain ⟨a', u, rfl, ha', hu⟩ := exists_append_of_foldAscii hr
      obtain ⟨b', rfl, hb'⟩ := exists_mark_of_foldAscii (by decide) hu
      exact .present (ha.recased ha') (hb.recased hb')

theorem CallWord.recased (hs : CallWord s) (h : foldAscii t = foldAscii s) : CallWord t :=
  h.trans hs

theorem Segment.recased (hs : Segment s) (h : foldAscii t = foldAscii s) : Segment t := by
  refine ⟨?_, forall_mem_of_foldAscii ignoresCase_isWord h hs.isWord⟩
  rintro rfl
  exact hs.ne_nil (eq_nil_of_foldAscii h.symm)

theorem Marks.recased {n : Nat} (hs : Marks n s) (h : foldAscii t = foldAscii s) : Marks n t := by
  induction hs generalizing t with
  | none ha => exact .none (ha.recased h)
  | one ha hb =>
      obtain ⟨a', r, rfl, ha', hr⟩ := exists_append_of_foldAscii h
      obtain ⟨b', rfl, hb'⟩ := exists_mark_of_foldAscii (by decide) hr
      exact .one (ha.recased ha') (hb.recased hb')
  | more ha hb _ ih =>
      obtain ⟨a', r, rfl, ha', hr⟩ := exists_append_of_foldAscii h
      obtain ⟨u, rfl, hu⟩ := exists_mark_of_foldAscii (by decide) hr
      obtain ⟨b', v, rfl, hb', hv⟩ := exists_append_of_foldAscii hu
      obtain ⟨s', rfl, hs'⟩ := exists_mark_of_foldAscii (by decide) hv
      exact .more (ha.recased ha') (hb.recased hb') (ih hs')

theorem Arguments.recased (hs : Arguments s) (h : foldAscii t = foldAscii s) : Arguments t := by
  cases hs with
  | absent =>
      obtain rfl := eq_nil_of_foldAscii h
      exact .absent
  | listed ha hmarks =>
      obtain ⟨a', r, rfl, ha', hr⟩ := exists_append_of_foldAscii h
      obtain ⟨u, rfl, hu⟩ := exists_mark_of_foldAscii (by decide) hr
      obtain ⟨s', v, rfl, hs', hv⟩ := exists_append_of_foldAscii hu
      obtain ⟨e, rfl, he⟩ := exists_mark_of_foldAscii (by decide) hv
      obtain rfl := eq_nil_of_foldAscii he
      exact .listed (ha.recased ha') (hmarks.recased hs')

section Separators

variable (hseparates : ∀ c d, c.toLower = d.toLower → separates d → separates c)
include hseparates

theorem Name.recased {n : Nat} (hs : Name separates n s)
    (h : foldAscii t = foldAscii s) : Name separates n t := by
  induction hs generalizing t with
  | last hw => exact .last (hw.recased h)
  | qualified hw hc _ ih =>
      obtain ⟨w', r, rfl, hw', hr⟩ := exists_append_of_foldAscii h
      obtain ⟨c', s', rfl, hc', hs'⟩ := exists_cons_of_foldAscii hr
      exact .qualified (hw.recased hw') (hseparates _ _ hc' hc) (ih hs')

theorem BareCall.recased (hs : BareCall separates s) (h : foldAscii t = foldAscii s) :
    BareCall separates t := by
  obtain ⟨hmarker, hword, hgap, hne, hname, harguments⟩ := hs
  obtain ⟨marker', r, rfl, hmarker', hr⟩ := exists_append_of_foldAscii h
  obtain ⟨word', u, rfl, hword', hu⟩ := exists_append_of_foldAscii hr
  obtain ⟨gap', v, rfl, hgap', hv⟩ := exists_append_of_foldAscii hu
  obtain ⟨name', arguments', rfl, hname', harguments'⟩ := exists_append_of_foldAscii hv
  have hne' : gap' ≠ [] := by
    rintro rfl
    exact hne (eq_nil_of_foldAscii hgap'.symm)
  exact .intro (hmarker.recased hmarker') (hword.recased hword') (hgap.recased hgap') hne'
    (hname.recased hseparates hname') (harguments.recased harguments')

/-- A text that differs from a call in the case of its letters alone is a call. -/
theorem CallForm.recased (hs : CallForm separates s) (h : foldAscii t = foldAscii s) :
    CallForm separates t := by
  cases hs with
  | bare hs => exact .bare (hs.recased hseparates h)
  | braced ha hs hb =>
      obtain ⟨r, rfl, hr⟩ := exists_mark_of_foldAscii (by decide) h
      obtain ⟨a', u, rfl, ha', hu⟩ := exists_append_of_foldAscii hr
      obtain ⟨s', v, rfl, hs', hv⟩ := exists_append_of_foldAscii hu
      obtain ⟨b', w, rfl, hb', hw⟩ := exists_append_of_foldAscii hv
      obtain ⟨e, rfl, he⟩ := exists_mark_of_foldAscii (by decide) hw
      obtain rfl := eq_nil_of_foldAscii he
      exact .braced (ha.recased ha') (hs.recased hseparates hs') (hb.recased hb')

end Separators

theorem isProcedureCall_recased {sql other : String}
    (h : foldAscii other.toList = foldAscii sql.toList) :
    isProcedureCall other = isProcedureCall sql := by
  have recased {sql other : String} (h : foldAscii other.toList = foldAscii sql.toList)
      (hcall : isProcedureCall sql = true) : isProcedureCall other = true := by
    refine isProcedureCall_iff.mpr (CallForm.recased ?_ (isProcedureCall_iff.mp hcall) h)
    rintro c d hlower hd rfl
    exact hd (eq_of_toLower_eq (by decide) hlower.symm)
  exact Bool.eq_iff_iff.mpr ⟨recased h.symm, recased h⟩

/-! ## Data changes -/

/-- A word stands in a text, each letter small or capital. -/
def Mentions (s keyword : List Char) : Prop :=
  ∃ part, part <:+: s ∧ foldAscii part = keyword

theorem mentions_iff {keyword : List Char} : Mentions s keyword ↔ keyword <:+: foldAscii s := by
  unfold Mentions
  rw [foldAscii, List.infix_map_iff]
  exact exists_congr fun part => and_congr_right fun _ => eq_comm

theorem unmistakable_of_mem : ∀ keyword ∈ dmlKeywords, Unmistakable keyword := by
  decide

theorem isDml_iff {sql : String} :
    isDml sql = true ↔ ∃ keyword ∈ dmlKeywords, Mentions sql.toList keyword := by
  unfold isDml
  rw [List.any_eq_true]
  refine exists_congr fun keyword => and_congr_right fun hkeyword => ?_
  rw [occurs_iff, mentions_iff]
  exact (lowered_lower sql.toList).infix_iff (unmistakable_of_mem keyword hkeyword)

theorem isDml_recased {sql other : String} (h : foldAscii other.toList = foldAscii sql.toList) :
    isDml other = isDml sql := by
  rw [Bool.eq_iff_iff, isDml_iff, isDml_iff]
  simp only [mentions_iff, h]

/-! ## Classification -/

/-- A text changes data if one of the keywords stands in it, with its letters in any case, and in no
other event: no lower-case form of the text has more keywords or fewer. The case of the letters from
A to Z has no part in the kind of a text. -/
theorem keywords_ignore_case (sql : String) :
    (isDml sql = true ↔ ∃ keyword ∈ dmlKeywords, Mentions sql.toList keyword) ∧
    (∀ keyword ∈ dmlKeywords, ∀ text, Lowered sql.toList text →
      (keyword <:+: text ↔ Mentions sql.toList keyword)) ∧
    ∀ other : String, foldAscii other.toList = foldAscii sql.toList →
      isProcedureCall other = isProcedureCall sql ∧ isDml other = isDml sql ∧
      classify other = classify sql := by
  refine ⟨isDml_iff, ?_, ?_⟩
  · intro keyword hkeyword text htext
    rw [mentions_iff]
    exact htext.infix_iff (unmistakable_of_mem keyword hkeyword)
  · intro other h
    have hcall := isProcedureCall_recased h
    have hdml := isDml_recased h
    refine ⟨hcall, hdml, ?_⟩
    rw [classify, classify, hcall, hdml]

/-- A sigma at the end of a word, and a keyword with its letters in turn small and capital. -/
theorem keywords_ignore_case_sigma :
    "delete".toList ∈ dmlKeywords ∧ Lowered "ΑΣ dElEtE".toList "ας delete".toList ∧
    foldAscii "ΑΣ DELETE".toList = foldAscii "ΑΣ dElEtE".toList ∧
    ("delete".toList <:+: "ας delete".toList ↔ Mentions "ΑΣ dElEtE".toList "delete".toList) ∧
    classify "ΑΣ DELETE" = classify "ΑΣ dElEtE" := by
  have hlowered : Lowered "ΑΣ dElEtE".toList "ας delete".toList :=
    .cons 'Α' (.finalSigma (lowered_lower " dElEtE".toList))
  have hfold : foldAscii "ΑΣ DELETE".toList = foldAscii "ΑΣ dElEtE".toList := by decide
  obtain ⟨-, hforms, hcase⟩ := keywords_ignore_case "ΑΣ dElEtE"
  exact ⟨by decide, hlowered, hfold, hforms _ (by decide) _ hlowered, (hcase _ hfold).2.2⟩

/-- The capital I with a dot above is the letter i and its dot in lower case, and no letter of a
keyword. -/
example : lower "İNSERT".toList = "i\u0307nsert".toList ∧ isDml "İNSERT" = false := by
  decide +kernel

end SqlGateway.Sql
