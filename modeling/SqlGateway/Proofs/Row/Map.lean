import Mathlib.Data.Finset.Card
import SqlGateway.Row.Map

/-!
# Maps of rows

A map is what its inserts make it, one after another: the labels that are the same up to letter case
are one class, which stands where it first came, in its first spelling and with its last value.
-/

namespace SqlGateway

open Text

/-! ## Labels -/

section

variable {a b c : String}

theorem sameLabel_iff : sameLabel a b = true ↔ foldAscii a.toList = foldAscii b.toList :=
  beq_iff_eq

theorem sameLabel_comm (a b : String) : sameLabel a b = sameLabel b a := by
  rw [Bool.eq_iff_iff, sameLabel_iff, sameLabel_iff, eq_comm]

theorem sameLabel_left (h : sameLabel a b = true) (c : String) :
    sameLabel a c = sameLabel b c := by
  rw [Bool.eq_iff_iff, sameLabel_iff, sameLabel_iff, sameLabel_iff.mp h]

theorem sameLabel_right (h : sameLabel a b = true) (c : String) :
    sameLabel c a = sameLabel c b := by
  rw [sameLabel_comm c a, sameLabel_comm c b, sameLabel_left h]

end

/-- The label of a class that is new comes last of the first ones. -/
theorem eraseDupsBy_concat (labels : List String) (label : String) :
    (labels ++ [label]).eraseDupsBy sameLabel =
      if labels.any (sameLabel · label) then labels.eraseDupsBy sameLabel
      else labels.eraseDupsBy sameLabel ++ [label] := by
  match labels with
  | [] => rfl
  | first :: labels =>
      rw [List.cons_append, List.eraseDupsBy_cons, List.eraseDupsBy_cons, List.filter_append]
      cases hfirst : sameLabel first label with
      | true =>
          have hlabel : sameLabel label first = true := (sameLabel_comm _ _).trans hfirst
          simp [hfirst, hlabel]
      | false =>
          have hlabel : sameLabel label first = false := (sameLabel_comm _ _).trans hfirst
          have hany : (labels.filter (sameLabel · first = false)).any (sameLabel · label) =
              labels.any (sameLabel · label) := by
            rw [List.any_filter]
            refine congrArg labels.any (funext fun l => ?_)
            cases hl : sameLabel l label with
            | false => exact Bool.and_false _
            | true => simp [sameLabel_left hl, hlabel]
          have hrest := eraseDupsBy_concat (labels.filter (sameLabel · first = false)) label
          rw [hany] at hrest
          simp only [List.filter_cons, hlabel, List.filter_nil, decide_true, if_true, hrest,
            List.any_cons, hfirst, Bool.false_or]
          split <;> rfl
termination_by labels.length
decreasing_by exact Nat.lt_succ_of_le (List.length_filter_le _ _)

namespace RowMap

variable {m m' : RowMap} {label key : String}

def labels (m : RowMap) : List String :=
  m.entries.map (·.1)

theorem contains_eq_any (m : RowMap) (label : String) :
    m.contains label = m.labels.any (sameLabel · label) := by
  rw [contains, get?, Option.isSome_map, Bool.eq_iff_iff, List.find?_isSome, labels, List.any_map,
    List.any_eq_true]
  rfl

theorem get?_congr (m : RowMap) (h : sameLabel label key = true) : m.get? label = m.get? key := by
  simp only [get?, sameLabel_right h]

/-! ## One insert -/

theorem labels_replace (label : String) (value : Value) (entries : List (String × Value)) :
    (replace label value entries).map (·.1) = entries.map (·.1) := by
  induction entries with
  | nil => rfl
  | cons e entries ih =>
      rw [replace]
      split
      · rfl
      · rw [List.map_cons, List.map_cons, ih]

theorem labels_insert (m : RowMap) (label : String) (value : Value) :
    (m.insert label value).labels =
      if m.contains label then m.labels else m.labels ++ [label] := by
  rw [insert]
  split
  · exact labels_replace label value m.entries
  · simp [labels]

theorem find?_replace {entries : List (String × Value)}
    (h : entries.any (sameLabel ·.1 label) = true) (value : Value) (key : String) :
    ((replace label value entries).find? (sameLabel ·.1 key)).map (·.2) =
      if sameLabel label key then some value
      else (entries.find? (sameLabel ·.1 key)).map (·.2) := by
  induction entries with
  | nil => cases h
  | cons e entries ih =>
      rw [replace]
      cases hlabel : sameLabel e.1 label with
      | true =>
          rw [if_pos rfl, List.find?_cons, List.find?_cons]
          simp only [sameLabel_left hlabel]
          cases sameLabel label key <;> rfl
      | false =>
          have hrest : entries.any (sameLabel ·.1 label) = true := by simpa [hlabel] using h
          rw [if_neg Bool.false_ne_true, List.find?_cons, List.find?_cons]
          cases hkey : sameLabel e.1 key with
          | false => exact ih hrest
          | true =>
              have hother : sameLabel label key = false := by
                rw [← sameLabel_right hkey, sameLabel_comm, hlabel]
              simp [hother]

theorem get?_insert (m : RowMap) (label : String) (value : Value) (key : String) :
    (m.insert label value).get? key = if sameLabel label key then some value else m.get? key := by
  rw [insert]
  split
  · rename_i hcontains
    rw [contains_eq_any, labels, List.any_map] at hcontains
    exact find?_replace hcontains value key
  · rename_i hcontains
    have hnone : m.get? label = none := by simpa [contains] using hcontains
    simp only [get?, List.find?_append, List.find?_singleton]
    cases hkey : sameLabel label key with
    | false => simp
    | true =>
        rw [get?_congr m hkey, get?, Option.map_eq_none_iff] at hnone
        simp [hnone]

theorem contains_insert (m : RowMap) (name : String) (value : Value) (label : String) :
    (m.insert name value).contains label = (m.contains label || sameLabel name label) := by
  rw [contains, get?_insert, contains]
  cases sameLabel name label <;> simp

/-- No two labels are the same up to letter case. -/
def Apart (m : RowMap) : Prop :=
  m.labels.Pairwise fun a b => sameLabel a b = false

theorem Apart.insert (h : m.Apart) (label : String) (value : Value) :
    (m.insert label value).Apart := by
  rw [Apart, labels_insert]
  split
  · exact h
  · rename_i hnew
    rw [contains_eq_any, List.any_eq_true] at hnew
    refine List.pairwise_append.mpr ⟨h, List.pairwise_singleton _ _, fun l hl l' hl' => ?_⟩
    rw [List.mem_singleton.mp hl']
    exact Bool.eq_false_iff.mpr fun hsame => hnew ⟨l, hl, hsame⟩

/-- Where the labels are apart, each entry holds what is found under its label. -/
theorem Apart.entries_eq (h : m.Apart) :
    m.entries.map (fun e => (e.1, some e.2)) = m.labels.map fun l => (l, m.get? l) := by
  rw [labels, List.map_map]
  refine List.map_congr_left fun e he => ?_
  obtain ⟨before, after, hentries⟩ := List.append_of_mem he
  have hbefore : ∀ e' ∈ before, sameLabel e'.1 e.1 = false := fun e' he' => by
    rw [Apart, labels, hentries, List.pairwise_map, List.pairwise_append] at h
    exact h.2.2 e' he' e List.mem_cons_self
  have hfind : m.entries.find? (sameLabel ·.1 e.1) = some e := by
    rw [List.find?_eq_some_iff_append]
    exact ⟨sameLabel_iff.mpr rfl, before, after, hentries, fun e' he' => by simp [hbefore e' he']⟩
  simp [get?, hfind]

theorem eq_of_get? (h : m.Apart) (h' : m'.Apart) (hlabels : m.labels = m'.labels)
    (hget : ∀ label, m.get? label = m'.get? label) : m = m' := by
  have hentries : m.entries.map (fun e => (e.1, some e.2)) =
      m'.entries.map fun e => (e.1, some e.2) := by
    rw [h.entries_eq, h'.entries_eq, hlabels, funext hget]
  have hinjective : Function.Injective fun e : String × Value => (e.1, some e.2) := by
    rintro ⟨l, v⟩ ⟨l', v'⟩ he
    simpa using he
  cases m
  cases m'
  exact congrArg RowMap.mk (List.map_injective_iff.mpr hinjective hentries)

/-! ## Many inserts -/

/-- The map that inserts make, the first one first. -/
def ofInserts (inserts : List (String × Value)) : RowMap :=
  inserts.foldl (fun m (label, value) => m.insert label value) {}

/-- The value of the last insert with the label. -/
def last? (inserts : List (String × Value)) (label : String) : Option Value :=
  (inserts.reverse.find? (sameLabel ·.1 label)).map (·.2)

theorem ofInserts_concat (inserts : List (String × Value)) (label : String) (value : Value) :
    ofInserts (inserts ++ [(label, value)]) = (ofInserts inserts).insert label value := by
  simp [ofInserts]

theorem apart_ofInserts (inserts : List (String × Value)) : (ofInserts inserts).Apart := by
  induction inserts using List.reverseRecOn with
  | nil => exact List.Pairwise.nil
  | append_singleton inserts insert ih =>
      rw [ofInserts_concat]
      exact ih.insert _ _

theorem get?_ofInserts (inserts : List (String × Value)) (label : String) :
    (ofInserts inserts).get? label = last? inserts label := by
  induction inserts using List.reverseRecOn with
  | nil => rfl
  | append_singleton inserts insert ih =>
      rw [ofInserts_concat, get?_insert, ih, last?, last?, List.reverse_concat, List.find?_cons]
      cases sameLabel insert.1 label <;> rfl

theorem last?_eq_none_iff {inserts : List (String × Value)} :
    last? inserts label = none ↔ ∀ x ∈ inserts, sameLabel x.1 label = false := by
  simp [last?]

theorem contains_ofInserts (inserts : List (String × Value)) (label : String) :
    (ofInserts inserts).contains label = (inserts.map (·.1)).any (sameLabel · label) := by
  rw [contains, get?_ofInserts, last?, Option.isSome_map, Bool.eq_iff_iff, List.find?_isSome,
    List.any_map, List.any_eq_true]
  simp

theorem labels_ofInserts (inserts : List (String × Value)) :
    (ofInserts inserts).labels = (inserts.map (·.1)).eraseDupsBy sameLabel := by
  induction inserts using List.reverseRecOn with
  | nil => rfl
  | append_singleton inserts insert ih =>
      rw [ofInserts_concat, labels_insert, contains_ofInserts, ih, List.map_append,
        List.map_singleton, eraseDupsBy_concat]

/-- The labels up to letter case. -/
def classes (labels : List String) : Finset (List Char) :=
  (labels.map (foldAscii ·.toList)).toFinset

theorem classes_subset {labels labels' : List String}
    (h : ∀ label, labels.any (sameLabel · label) = labels'.any (sameLabel · label)) :
    classes labels ⊆ classes labels' := by
  intro f hf
  obtain ⟨label, hlabel, rfl⟩ := List.mem_map.mp (List.mem_toFinset.mp hf)
  have hany : labels'.any (sameLabel · label) = true := by
    rw [← h label, List.any_eq_true]
    exact ⟨label, hlabel, sameLabel_iff.mpr rfl⟩
  obtain ⟨label', hlabel', hsame⟩ := List.any_eq_true.mp hany
  exact List.mem_toFinset.mpr (List.mem_map.mpr ⟨label', hlabel', sameLabel_iff.mp hsame⟩)

theorem Apart.size_eq (h : m.Apart) : m.size = (classes m.labels).card := by
  have hnodup : (m.labels.map (foldAscii ·.toList)).Nodup :=
    List.pairwise_map.mpr (h.imp fun hne heq => by simp [sameLabel_iff.mpr heq] at hne)
  rw [classes, List.toFinset_card_of_nodup hnodup, List.length_map, labels, List.length_map, size]

theorem size_ofInserts (inserts : List (String × Value)) :
    (ofInserts inserts).size = (classes (inserts.map (·.1))).card := by
  have hany (label : String) : (ofInserts inserts).labels.any (sameLabel · label) =
      (inserts.map (·.1)).any (sameLabel · label) := by
    rw [← contains_eq_any, contains_ofInserts]
  rw [(apart_ofInserts inserts).size_eq]
  exact congrArg Finset.card
    (Finset.Subset.antisymm (classes_subset hany) (classes_subset fun l => (hany l).symm))

/-- The labels of a map are those inserted, one for each class, in the order and the spelling in
which the classes first came. Under each is the value that came last for its class, and nothing else
makes a difference. -/
theorem first_labels_last_values (inserts : List (String × Value)) :
    ((ofInserts inserts).labels.Pairwise fun a b => sameLabel a b = false) ∧
    (ofInserts inserts).labels = (inserts.map (·.1)).eraseDupsBy sameLabel ∧
    (∀ label, (ofInserts inserts).get? label = last? inserts label ∧
      ((ofInserts inserts).get? label = none ↔ ∀ x ∈ inserts, sameLabel x.1 label = false)) ∧
    (ofInserts inserts).size = (classes (inserts.map (·.1))).card ∧
    ∀ others : List (String × Value),
      (others.map (·.1)).eraseDupsBy sameLabel = (inserts.map (·.1)).eraseDupsBy sameLabel →
      (∀ label, last? others label = last? inserts label) →
      ofInserts others = ofInserts inserts := by
  refine ⟨apart_ofInserts inserts, labels_ofInserts inserts, fun label => ?_,
    size_ofInserts inserts, fun others hlabels hlast => ?_⟩
  · rw [get?_ofInserts]
    exact ⟨rfl, last?_eq_none_iff⟩
  · refine eq_of_get? (apart_ofInserts others) (apart_ofInserts inserts) ?_ fun label => ?_
    · rw [labels_ofInserts, labels_ofInserts, hlabels]
    · rw [get?_ofInserts, get?_ofInserts, hlast]

/-- A label that is spelled in another way keeps its first spelling and takes the last value. -/
theorem first_labels_last_values_respelled :
    let inserts : List (String × Value) := [("NAME", .null), ("id", .int 1), ("name", .text "Ada")]
    let others : List (String × Value) :=
      [("NAME", .text "Bob"), ("id", .null), ("ID", .int 1), ("Name", .text "Ada")]
    (ofInserts inserts).labels = ["NAME", "id"] ∧
      (ofInserts inserts).get? "nAmE" = some (.text "Ada") ∧
      ofInserts others = ofInserts inserts := by
  intro inserts others
  obtain ⟨-, hlabels, hget, -, hothers⟩ := first_labels_last_values inserts
  refine ⟨hlabels.trans (by decide), (hget "nAmE").1.trans (by decide),
    hothers others (by decide) fun label => ?_⟩
  have hname : sameLabel "Name" label = sameLabel "name" label := sameLabel_left (by decide) label
  have hfirst : sameLabel "NAME" label = sameLabel "name" label := sameLabel_left (by decide) label
  have hid : sameLabel "ID" label = sameLabel "id" label := sameLabel_left (by decide) label
  simp only [last?, inserts, others, List.reverse_cons, List.reverse_nil, List.nil_append,
    List.cons_append, List.find?_cons, List.find?_nil, hname, hfirst, hid]
  cases sameLabel "name" label <;> cases sameLabel "id" label <;> rfl

end RowMap

end SqlGateway
