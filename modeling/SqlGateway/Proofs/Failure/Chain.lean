import Mathlib.Data.List.Sublists
import SqlGateway.Failure
import SqlGateway.Proofs.Text.Trim

/-!
# Chains of messages

A failure is reported with the messages of its causes. A message that what has been collected ends
with already goes; every other one is added after a space. So each message is found in the chain, a
longer chain begins as the shorter one does, and the chain is the messages that were kept, joined by
single spaces. Only where the first message is blank and another one is not, the space before the
other one begins the chain.
-/

namespace SqlGateway.Failure

open Text

/-- The messages of a failure and of its causes, trimmed, outermost first. -/
def texts (f : Failure) : List (List Char) :=
  (f.message :: f.causes).map fun message => trim message.toList

/-- Texts with a space between each two of them. -/
def joined (texts : List (List Char)) : List Char :=
  [' '].intercalate texts

/-- What is kept of the texts if a text goes that the ones kept before it, joined, end with. -/
inductive Kept : List (List Char) → List (List Char) → Prop
  | nil : Kept [] []
  | dropped {texts kept : List (List Char)} {text : List Char} (h : Kept texts kept)
      (hends : text <:+ joined kept) : Kept (texts ++ [text]) kept
  | added {texts kept : List (List Char)} {text : List Char} (h : Kept texts kept)
      (hends : ¬ text <:+ joined kept) : Kept (texts ++ [text]) (kept ++ [text])

variable {texts kept : List (List Char)} {message cause text : List Char}

/-! ## One cause -/

theorem addCause_of_suffix (h : trim cause <:+ message) : addCause message cause = message := by
  have hends : (trim cause).isSuffixOf message = true := List.isSuffixOf_iff_suffix.mpr h
  simp [addCause, hends]

theorem addCause_of_not_suffix (h : ¬ trim cause <:+ message) :
    addCause message cause = message ++ ' ' :: trim cause := by
  have hends : (trim cause).isSuffixOf message = false := by
    simpa [← List.isSuffixOf_iff_suffix] using h
  have hne : trim cause ≠ [] := fun hnil => h (hnil ▸ List.nil_suffix)
  simp [addCause, hends, hne]

theorem prefix_addCause (message cause : List Char) : message <+: addCause message cause := by
  by_cases h : trim cause <:+ message
  · exact (addCause_of_suffix h).symm ▸ List.prefix_rfl
  · rw [addCause_of_not_suffix h]
    exact List.prefix_append _ _

theorem suffix_addCause (message cause : List Char) : trim cause <:+ addCause message cause := by
  by_cases h : trim cause <:+ message
  · rwa [addCause_of_suffix h]
  · rw [addCause_of_not_suffix h]
    exact (List.suffix_cons _ _).trans (List.suffix_append _ _)

theorem getLast_addCause (h : ∀ c ∈ message.getLast?, isBlank c = false) :
    ∀ c ∈ (addCause message cause).getLast?, isBlank c = false := by
  by_cases hends : trim cause <:+ message
  · rwa [addCause_of_suffix hends]
  · have hne : trim cause ≠ [] := fun hnil => hends (hnil ▸ List.nil_suffix)
    rw [addCause_of_not_suffix hends, List.getLast?_append_of_ne_nil _ (by simp),
      List.getLast?_cons_of_ne_nil hne]
    exact fun c hc => getLast_trim hc

/-! ## All causes -/

theorem prefix_foldl (causes : List (List Char)) (message : List Char) :
    message <+: causes.foldl addCause message := by
  induction causes generalizing message with
  | nil => exact List.prefix_rfl
  | cons cause causes ih => exact (prefix_addCause message cause).trans (ih _)

theorem infix_foldl {causes : List (List Char)} (h : cause ∈ causes) (message : List Char) :
    trim cause <:+: causes.foldl addCause message := by
  induction causes generalizing message with
  | nil => cases h
  | cons first causes ih =>
      rcases List.mem_cons.mp h with rfl | h
      · exact (suffix_addCause message cause).isInfix.trans (prefix_foldl causes _).isInfix
      · exact ih h _

theorem getLast_foldl (causes : List (List Char)) (h : ∀ c ∈ message.getLast?, isBlank c = false) :
    ∀ c ∈ (causes.foldl addCause message).getLast?, isBlank c = false := by
  induction causes generalizing message with
  | nil => exact h
  | cons cause causes ih => exact ih (getLast_addCause h)

/-! ## What is kept -/

theorem Kept.sublist (h : Kept texts kept) : kept.Sublist texts := by
  induction h with
  | nil => exact .slnil
  | dropped _ _ ih => exact ih.trans (List.sublist_append_left _ _)
  | added _ _ ih => exact ih.append (List.Sublist.refl _)

theorem Kept.ne_nil (h : Kept texts kept) : ∀ text ∈ kept, text ≠ [] := by
  induction h with
  | nil => exact nofun
  | dropped _ _ ih => exact ih
  | added _ hends ih =>
      refine List.forall_mem_append.mpr ⟨ih, List.forall_mem_singleton.mpr ?_⟩
      exact fun hnil => hends (hnil ▸ List.nil_suffix)

/-- Nothing is kept of blank texts, and of no others. -/
theorem Kept.eq_nil_iff (h : Kept texts kept) : kept = [] ↔ ∀ text ∈ texts, text = [] := by
  constructor
  · intro hnil
    induction h with
    | nil => exact nofun
    | dropped _ hends ih =>
        subst hnil
        refine List.forall_mem_append.mpr ⟨ih rfl, List.forall_mem_singleton.mpr ?_⟩
        exact List.suffix_nil.mp hends
    | added => simp at hnil
  · intro hblank
    refine List.eq_nil_iff_forall_not_mem.mpr fun text htext => ?_
    exact h.ne_nil text htext (hblank text (h.sublist.subset htext))

theorem joined_concat (h : kept ≠ []) (text : List Char) :
    joined (kept ++ [text]) = joined kept ++ ' ' :: text := by
  induction kept with
  | nil => exact absurd rfl h
  | cons first kept ih =>
      cases kept with
      | nil => simp [joined]
      | cons second kept => simpa [joined] using ih nofun

/-! ## Chains -/

/-- The space that begins a chain whose first text is blank and another one is not. -/
def margin (texts kept : List (List Char)) : List Char :=
  if texts.head? = some [] ∧ kept ≠ [] then [' '] else []

/-- The message is what is kept of the texts, joined. -/
def Collects (texts : List (List Char)) (message : List Char) : Prop :=
  ∃ kept, Kept texts kept ∧ message = margin texts kept ++ joined kept

/-- The space at the beginning of a chain makes no difference to what the chain ends with. -/
theorem suffix_margin (htext : ∀ c ∈ text.head?, isBlank c = false) :
    text <:+ margin texts kept ++ joined kept ↔ text <:+ joined kept := by
  unfold margin
  split
  · rw [List.singleton_append, List.suffix_cons_iff, or_iff_right]
    rintro rfl
    exact absurd (htext ' ' rfl) (by decide)
  · rfl

theorem Collects.first (message : List Char) : Collects [message] message := by
  cases message with
  | nil => exact ⟨[], .dropped .nil List.nil_suffix, rfl⟩
  | cons c s => exact ⟨[c :: s], .added .nil (by simp [joined]), by simp [margin, joined]⟩

theorem Collects.addCause (hne : texts ≠ []) (h : Collects texts message) (cause : List Char) :
    Collects (texts ++ [trim cause]) (addCause message cause) := by
  obtain ⟨kept, hkept, rfl⟩ := h
  have hhead : (texts ++ [trim cause]).head? = texts.head? := List.head?_append_of_ne_nil _ hne
  have hends : trim cause <:+ margin texts kept ++ joined kept ↔ _ :=
    suffix_margin fun c hc => head_trim hc
  by_cases h : trim cause <:+ joined kept
  · refine ⟨kept, hkept.dropped h, ?_⟩
    rw [addCause_of_suffix (hends.mpr h), margin, margin, hhead]
  · refine ⟨kept ++ [trim cause], hkept.added h, ?_⟩
    rw [addCause_of_not_suffix (mt hends.mp h), margin, margin, hhead]
    by_cases hnil : kept = []
    · subst hnil
      obtain ⟨first, texts, rfl⟩ := List.exists_cons_of_ne_nil hne
      obtain rfl := hkept.eq_nil_iff.mp rfl first List.mem_cons_self
      simp [joined]
    · rw [joined_concat hnil]
      simp [hnil]

theorem Collects.foldl (hne : texts ≠ []) (h : Collects texts message) (causes : List (List Char)) :
    Collects (texts ++ causes.map trim) (causes.foldl Failure.addCause message) := by
  induction causes generalizing texts message with
  | nil => simpa using h
  | cons cause causes ih =>
      have hrest := ih (by simp) (h.addCause hne cause)
      rwa [List.append_assoc] at hrest

theorem toList_chain (f : Failure) :
    f.chain.toList = (f.causes.map String.toList).foldl addCause (trim f.message.toList) :=
  String.toList_ofList

theorem texts_eq (f : Failure) :
    f.texts = [trim f.message.toList] ++ (f.causes.map String.toList).map trim := by
  simp [Failure.texts]

theorem collects_chain (f : Failure) : Collects f.texts f.chain.toList := by
  rw [toList_chain, texts_eq]
  exact (Collects.first _).foldl (by simp) _

theorem prefix_chain (f : Failure) : trim f.message.toList <+: f.chain.toList := by
  rw [toList_chain]
  exact prefix_foldl _ _

theorem infix_chain (f : Failure) : ∀ text ∈ f.texts, text <:+: f.chain.toList := by
  rw [texts_eq, toList_chain]
  refine List.forall_mem_append.mpr ⟨?_, List.forall_mem_map.mpr fun cause hcause => ?_⟩
  · exact List.forall_mem_singleton.mpr (prefix_foldl _ _).isInfix
  · exact infix_foldl hcause _

theorem texts_blank_iff (f : Failure) : (∀ text ∈ f.texts, text = []) ↔
    ∀ message ∈ f.message :: f.causes, blank message.toList = true := by
  rw [Failure.texts, List.forall_mem_map]
  simp only [trim_eq_nil_iff]

theorem chain_eq_nil_iff (f : Failure) :
    f.chain.toList = [] ↔ ∀ text ∈ f.texts, text = [] := by
  constructor
  · intro h text htext
    have hpart := f.infix_chain text htext
    rw [h] at hpart
    exact List.infix_nil.mp hpart
  · intro h
    obtain ⟨kept, hkept, hchain⟩ := f.collects_chain
    obtain rfl := hkept.eq_nil_iff.mpr h
    simpa [margin, joined] using hchain

theorem margin_texts (f : Failure) (kept : List (List Char)) : margin f.texts kept =
    if blank f.message.toList = true ∧ kept ≠ [] then [' '] else [] := by
  simp only [margin, Failure.texts, List.map_cons, List.head?_cons, Option.some.injEq,
    trim_eq_nil_iff]

/-- A chain begins with white space if its first message is blank and another one is not. -/
theorem head_chain (f : Failure) : (∃ c ∈ f.chain.toList.head?, isBlank c = true) ↔
    blank f.message.toList = true ∧ ∃ cause ∈ f.causes, blank cause.toList = false := by
  cases hfirst : blank f.message.toList with
  | false =>
      refine iff_of_false ?_ nofun
      rintro ⟨c, hc, hblank⟩
      obtain ⟨d, s, hd⟩ : ∃ d s, trim f.message.toList = d :: s :=
        List.exists_cons_of_ne_nil fun hnil => by simp [trim_eq_nil_iff.mp hnil] at hfirst
      obtain ⟨t, ht⟩ := f.prefix_chain
      rw [← ht, hd] at hc
      obtain rfl : d = c := by simpa using hc
      have hhead : d ∈ (trim f.message.toList).head? := by rw [hd]; rfl
      rw [head_trim hhead] at hblank
      cases hblank
  | true =>
      obtain ⟨kept, hkept, hchain⟩ := f.collects_chain
      rw [hchain, margin_texts, hfirst]
      by_cases hnil : kept = []
      · subst hnil
        have hblank := f.texts_blank_iff.mp (hkept.eq_nil_iff.mp rfl)
        refine iff_of_false (by simp [joined]) ?_
        rintro ⟨-, cause, hcause, hnot⟩
        rw [hblank cause (List.mem_cons_of_mem _ hcause)] at hnot
        cases hnot
      · refine iff_of_true ⟨' ', by simp [hnil], by decide⟩ ⟨rfl, ?_⟩
        have hsome := mt (fun h => hkept.eq_nil_iff.mpr (f.texts_blank_iff.mpr h)) hnil
        simpa [hfirst] using hsome

/-- A chain is the texts that are kept, joined by single spaces, but for a space before them where
the first message is blank. -/
theorem chain_joined (f : Failure) :
    (∃ kept, Kept f.texts kept ∧ kept.Sublist f.texts ∧ (∀ text ∈ kept, text ≠ []) ∧
      f.chain.toList =
        (if blank f.message.toList = true ∧ kept ≠ [] then [' '] else []) ++ joined kept) ∧
    (∀ c ∈ f.chain.toList.getLast?, isBlank c = false) ∧
    ((∃ c ∈ f.chain.toList.head?, isBlank c = true) ↔
      blank f.message.toList = true ∧ ∃ cause ∈ f.causes, blank cause.toList = false) ∧
    (f.chain = "" ↔ ∀ message ∈ f.message :: f.causes, blank message.toList = true) := by
  obtain ⟨kept, hkept, hchain⟩ := f.collects_chain
  rw [margin_texts] at hchain
  refine ⟨⟨kept, hkept, hkept.sublist, hkept.ne_nil, hchain⟩, ?_, f.head_chain, ?_⟩
  · rw [toList_chain]
    exact getLast_foldl _ fun c hc => getLast_trim hc
  · rw [← f.texts_blank_iff, ← f.chain_eq_nil_iff, ← String.toList_eq_nil_iff]

/-- A blank message leaves a space at the beginning of the chain, which no texts joined by spaces
have. -/
theorem blank_message_leaves_space :
    let f : Failure := ⟨.failed, "", ["disk full"]⟩
    f.chain = " disk full" ∧ (∃ c ∈ f.chain.toList.head?, isBlank c = true) ∧
      ∀ kept, Kept f.texts kept → f.chain.toList ≠ joined kept := by
  intro f
  refine ⟨by decide, ⟨' ', by decide, by decide⟩, fun kept hkept => ?_⟩
  have hall : ∀ kept ∈ f.texts.sublists, (∀ text ∈ kept, text ≠ []) →
      f.chain.toList ≠ joined kept := by
    decide +kernel
  exact hall kept (List.mem_sublists.mpr hkept.sublist) hkept.ne_nil

/-- No message is lost from a chain, and a longer chain only goes on where the shorter one ends. -/
theorem chain_keeps_causes (f : Failure) :
    (∀ text ∈ f.texts, text <:+: f.chain.toList) ∧ trim f.message.toList <+: f.chain.toList ∧
      ∀ more : List String,
        f.chain.toList <+: ({ f with causes := f.causes ++ more } : Failure).chain.toList := by
  refine ⟨f.infix_chain, f.prefix_chain, fun more => ?_⟩
  rw [toList_chain, toList_chain, List.map_append, List.foldl_append]
  exact prefix_foldl _ _

end SqlGateway.Failure
