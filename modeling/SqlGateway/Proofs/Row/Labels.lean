import Mathlib.Data.List.Forall2
import SqlGateway.Cursor.Fetch
import SqlGateway.Database.Memory.Driver
import SqlGateway.Proofs.Act.Reading
import SqlGateway.Proofs.Row.Map

/-!
# Labels of a row

A row is read by label or as a map. Both know each label by the first of its columns, whatever the
others hold: the map has those columns and asks for no other.
-/

namespace SqlGateway

open Text

/-! ## Labels -/

/-- Which columns have a label does not depend on its spelling. -/
theorem any_sameLabel {a b : String} (h : sameLabel a b = true) (columns : List Column) :
    columns.any (sameLabel ·.name a) = columns.any (sameLabel ·.name b) := by
  simp only [sameLabel_right h]

/-- The column that a question is about. -/
def CellRead.index : CellRead → Nat
  | .object index | .binaryStream index | .characterStream index => index

namespace Row

/-! ## The first column with each label -/

/-- Of the columns `rest`, which follow those in `before`, the ones with a label that is new. -/
def leadingAfter (before rest : List Column) : List (Column × Nat) :=
  (rest.zipIdx (before.length + 1)).filter fun (column, index) =>
    !((before ++ rest).take (index - 1)).any (sameLabel ·.name column.name)

/-- The columns, with their numbers, whose label no earlier column has. -/
def leading (row : Row) : List (Column × Nat) :=
  (row.columns.zipIdx 1).filter fun (column, index) =>
    !(row.columns.take (index - 1)).any (sameLabel ·.name column.name)

variable {before rest : List Column} {column : Column}

theorem leadingAfter_of_known (h : before.any (sameLabel ·.name column.name) = true) :
    leadingAfter before (column :: rest) = leadingAfter (before ++ [column]) rest := by
  unfold leadingAfter
  rw [List.zipIdx_cons, List.filter_cons_of_neg (by simpa using h)]
  simp

theorem leadingAfter_of_new (h : before.any (sameLabel ·.name column.name) = false) :
    leadingAfter before (column :: rest) =
      (column, before.length + 1) :: leadingAfter (before ++ [column]) rest := by
  unfold leadingAfter
  rw [List.zipIdx_cons, List.filter_cons_of_pos (by simpa using h)]
  simp

/-- A label that is new is looked up in the same way with and without the columns that are not. -/
theorem find?_leadingAfter (before : List Column) {label : String}
    (h : before.any (sameLabel ·.name label) = false) :
    (leadingAfter before rest).find? (sameLabel ·.1.name label) =
      (rest.zipIdx (before.length + 1)).find? (sameLabel ·.1.name label) := by
  induction rest generalizing before with
  | nil => rfl
  | cons column rest ih =>
      rw [List.zipIdx_cons]
      cases hlabel : sameLabel column.name label with
      | true =>
          have hnew : before.any (sameLabel ·.name column.name) = false :=
            (any_sameLabel hlabel before).trans h
          simp only [leadingAfter_of_new hnew, List.find?_cons, hlabel]
      | false =>
          have hrest := ih (before ++ [column]) (by simp [h, hlabel])
          rw [List.length_append, List.length_singleton] at hrest
          rw [List.find?_cons_of_neg (by simpa using hlabel), ← hrest]
          cases hknown : before.any (sameLabel ·.name column.name) with
          | true => rw [leadingAfter_of_known hknown]
          | false => rw [leadingAfter_of_new hknown, List.find?_cons_of_neg (by simpa using hlabel)]

theorem findIdx?_eq_find? {α : Type} (p : α → Bool) (as : List α) (n : Nat) :
    (as.findIdx? p).map (· + n) = ((as.zipIdx n).find? (p ·.1)).map (·.2) := by
  induction as generalizing n with
  | nil => rfl
  | cons a as ih =>
      rw [List.findIdx?_cons, List.zipIdx_cons, List.find?_cons]
      cases h : p a with
      | true => simp
      | false =>
          rw [← ih (n + 1)]
          cases as.findIdx? p with
          | none => rfl
          | some i => simp [Nat.add_assoc, Nat.add_comm 1 n]

/-- The column that a label stands for. -/
theorem findColumn_eq (row : Row) (label : String) :
    row.findColumn label =
      match row.leading.find? (sameLabel ·.1.name label) with
      | some (_, index) => .ok index
      | none => .error (.misuse (.columnLabel label)) := by
  have hleading : row.leading.find? (sameLabel ·.1.name label) = _ :=
    find?_leadingAfter [] rfl
  have hindex := findIdx?_eq_find? (sameLabel ·.name label) row.columns 1
  rw [hleading]
  unfold findColumn
  dsimp only [List.length_nil]
  cases hfound : row.columns.findIdx? (sameLabel ·.name label) with
  | some i =>
      rw [hfound] at hindex
      obtain ⟨found, hfind, hnumber⟩ := Option.map_eq_some_iff.mp hindex.symm
      rw [hfind]
      exact congrArg Except.ok hnumber.symm
  | none =>
      rw [hfound] at hindex
      rw [Option.map_eq_none_iff.mp hindex.symm]

/-! ## What is read -/

variable {row : Row} {answer : (r : CellRead) → Except Failure r.Answer} {m : RowMap}

/-- What the map has for a column. -/
def entry (row : Row) (answer : (r : CellRead) → Except Failure r.Answer) :
    Column × Nat → Except Error (String × Value)
  | (column, index) => ((row.get index).run.eval answer).map (column.name, ·)

/-- The map has been made of the columns in `before`. -/
def MadeOf (before : List Column) (m : RowMap) : Prop :=
  ∀ label, m.contains label = before.any (sameLabel ·.name label)

theorem MadeOf.insert (h : MadeOf before m) (value : Value) :
    MadeOf (before ++ [column]) (m.insert column.name value) := by
  intro label
  rw [RowMap.contains_insert, h label]
  simp

/-- A column with a known label changes nothing. -/
theorem MadeOf.skip (h : MadeOf before m) (hknown : m.contains column.name = true) :
    MadeOf (before ++ [column]) m := by
  intro label
  rw [h label]
  cases hlabel : sameLabel column.name label with
  | false => simp [hlabel]
  | true =>
      have hbefore : before.any (sameLabel ·.name label) = true := by
        rw [← any_sameLabel hlabel, ← h column.name, hknown]
      simp [hbefore]

theorem entries_cons {column : Column} {index : Nat} {columns : List (Column × Nat)}
    (m : RowMap) :
    (((column, index) :: columns).mapM (row.entry answer)).map (fun es => ⟨m.entries ++ es⟩) =
      ((row.get index).run.eval answer).bind fun value =>
        (columns.mapM (row.entry answer)).map fun es =>
          (⟨m.entries ++ [(column.name, value)] ++ es⟩ : RowMap) := by
  rw [List.mapM_cons, entry]
  cases (row.get index).run.eval answer with
  | error e => rfl
  | ok value =>
      simp only [List.append_assoc]
      cases columns.mapM (row.entry answer) <;> rfl

theorem addColumns_eval (before : List Column) (h : MadeOf before m) :
    (row.addColumns (before.length + 1) m rest).run.eval answer =
      ((leadingAfter before rest).mapM (row.entry answer)).map fun es => ⟨m.entries ++ es⟩ := by
  induction rest generalizing before m with
  | nil =>
      change Except.ok m = .ok ⟨m.entries ++ []⟩
      rw [List.append_nil]
  | cons column rest ih =>
      have next {m : RowMap} (hm : MadeOf (before ++ [column]) m) := ih _ hm
      simp only [List.length_append, List.length_singleton] at next
      unfold addColumns
      cases hknown : m.contains column.name with
      | true =>
          rw [leadingAfter_of_known ((h _).symm.trans hknown), if_pos rfl]
          exact next (h.skip hknown)
      | false =>
          rw [leadingAfter_of_new ((h _).symm.trans hknown), if_neg Bool.false_ne_true,
            entries_cons, Reading.eval_bindAct]
          refine congrArg (Except.bind _) (funext fun value => ?_)
          rw [next (h.insert value), RowMap.insert, if_neg (by simp [hknown])]

/-- The map has the columns that are the first with their label, in order. -/
theorem toMap_eval (row : Row) (answer : (r : CellRead) → Except Failure r.Answer) :
    row.toMap.run.eval answer = (row.leading.mapM (row.entry answer)).map RowMap.mk :=
  addColumns_eval [] fun _ => rfl

/-! ## What is asked for -/

theorem Reader.within (reader : Reader) (index : Nat) :
    (reader.read index).run.Within (·.index = index) := by
  have asked (r : CellRead) (h : r.index = index) : r.ask.run.Within (·.index = index) :=
    ⟨h, fun _ => trivial⟩
  have converted {α : Type} (convert : Value → Except Failure (Option α)) :
      (readAs convert index).run.Within (·.index = index) := by
    refine Reading.Within.bindAct (asked (.object index) rfl) fun value => ?_
    trivial
  cases reader with
  | object => exact asked (.object index) rfl
  | binaryStream =>
      refine Reading.Within.bindAct (asked (.binaryStream index) rfl) fun stream => ?_
      cases stream <;> trivial
  | characterStream =>
      refine Reading.Within.bindAct (asked (.characterStream index) rfl) fun stream => ?_
      cases stream <;> trivial
  | _ => exact Reading.Within.map _ (converted _)

theorem get_within (row : Row) (index : Nat) : (row.get index).run.Within (·.index = index) := by
  unfold get
  refine Reading.Within.bindAct ?_ fun _ => Reading.Within.adapt _ (Reader.within _ index)
  trivial

theorem addColumns_within (before : List Column) (h : MadeOf before m) :
    (row.addColumns (before.length + 1) m rest).run.Within fun r =>
      r.index ∈ (leadingAfter before rest).map (·.2) := by
  induction rest generalizing before m with
  | nil => trivial
  | cons column rest ih =>
      have next {m : RowMap} (hm : MadeOf (before ++ [column]) m) := ih _ hm
      simp only [List.length_append, List.length_singleton] at next
      unfold addColumns
      cases hknown : m.contains column.name with
      | true =>
          rw [leadingAfter_of_known ((h _).symm.trans hknown), if_pos rfl]
          exact next (h.skip hknown)
      | false =>
          rw [leadingAfter_of_new ((h _).symm.trans hknown), if_neg Bool.false_ne_true]
          refine Reading.Within.bindAct ?_ fun value => ?_
          · exact (get_within row _).mono
              fun r hr => List.mem_map.mpr ⟨_, List.mem_cons_self, hr.symm⟩
          · exact (next (h.insert value)).mono fun r hr => List.mem_cons_of_mem _ hr

/-- Of columns with the same label the map reads only the first. -/
theorem toMap_within (row : Row) :
    row.toMap.run.Within fun r => r.index ∈ row.leading.map (·.2) :=
  addColumns_within [] fun _ => rfl

/-! ## Outcomes -/

theorem entry_ok {column : Column} {index : Nat} {e : String × Value} :
    row.entry answer (column, index) = .ok e ↔
      e.1 = column.name ∧ (row.get index).run.eval answer = .ok e.2 := by
  rw [entry]
  cases (row.get index).run.eval answer with
  | error f => exact ⟨nofun, nofun⟩
  | ok value =>
      constructor
      · rintro ⟨⟩
        exact ⟨rfl, rfl⟩
      · rintro ⟨hname, hvalue⟩
        cases hvalue
        rw [← hname]
        rfl

section

variable {α β ε : Type} {f : α → Except ε β}

theorem mapM_ok_iff {as : List α} {bs : List β} :
    as.mapM f = .ok bs ↔ List.Forall₂ (fun b a => f a = .ok b) bs as := by
  induction as generalizing bs with
  | nil =>
      rw [List.forall₂_nil_right_iff]
      exact ⟨fun h => by cases h; rfl, fun h => by rw [h]; rfl⟩
  | cons a as ih =>
      rw [List.mapM_cons, List.forall₂_cons_right_iff]
      constructor
      · intro h
        cases ha : f a with
        | error e =>
            rw [ha] at h
            cases h
        | ok b =>
            cases hrest : as.mapM f with
            | error e =>
                rw [ha, hrest] at h
                cases h
            | ok rest =>
                rw [ha, hrest] at h
                cases h
                exact ⟨b, rest, rfl, ih.mp hrest, rfl⟩
      · rintro ⟨b, rest, ha, hrest, rfl⟩
        rw [ha, ih.mpr hrest]
        rfl

theorem exists_mapM_ok {as : List α} :
    (∃ bs, as.mapM f = .ok bs) ↔ ∀ a ∈ as, ∃ b, f a = .ok b := by
  simp only [mapM_ok_iff]
  constructor
  · rintro ⟨bs, h⟩
    induction h with
    | nil => exact List.forall_mem_nil _
    | cons ha _ ih => exact List.forall_mem_cons.mpr ⟨⟨_, ha⟩, ih⟩
  · intro h
    induction as with
    | nil => exact ⟨[], .nil⟩
    | cons a as ih =>
        obtain ⟨⟨b, ha⟩, hrest⟩ := List.forall_mem_cons.mp h
        obtain ⟨bs, hbs⟩ := ih hrest
        exact ⟨b :: bs, .cons ha hbs⟩

end

theorem find?_of_forall₂ {α β : Type} {R : α → β → Prop} {p : α → Bool} {q : β → Bool}
    {as : List α} {bs : List β} (h : List.Forall₂ R as bs) (hpq : ∀ a b, R a b → p a = q b) :
    Option.Rel R (as.find? p) (bs.find? q) := by
  induction h with
  | nil => exact .none
  | @cons a b as bs hab _ ih =>
      rw [List.find?_cons, List.find?_cons, hpq a b hab]
      cases q b with
      | true => exact .some hab
      | false => exact ih

theorem toMap_ok :
    row.toMap.run.eval answer = .ok m ↔ row.leading.mapM (row.entry answer) = .ok m.entries := by
  rw [toMap_eval]
  cases row.leading.mapM (row.entry answer) with
  | error e => exact ⟨nofun, nofun⟩
  | ok entries =>
      constructor
      · rintro ⟨⟩
        rfl
      · rintro ⟨⟩
        rfl

theorem exists_toMap_ok : (∃ m, row.toMap.run.eval answer = .ok m) ↔
    ∀ x ∈ row.leading, ∃ v, (row.get x.2).run.eval answer = .ok v := by
  trans ∃ entries, row.leading.mapM (row.entry answer) = .ok entries
  · exact ⟨fun ⟨m, h⟩ => ⟨m.entries, toMap_ok.mp h⟩, fun ⟨es, h⟩ => ⟨⟨es⟩, toMap_ok.mpr h⟩⟩
  · rw [exists_mapM_ok]
    refine forall₂_congr fun x _ => ?_
    exact ⟨fun ⟨e, h⟩ => ⟨e.2, (entry_ok.mp h).2⟩,
      fun ⟨v, h⟩ => ⟨(x.1.name, v), entry_ok.mpr ⟨rfl, h⟩⟩⟩

theorem getByLabel_eval (row : Row) (label : String) :
    (row.getByLabel label).run.eval answer =
      (row.findColumn label).bind fun index => (row.get index).run.eval answer := by
  unfold getByLabel
  rw [Reading.eval_bindAct]
  rfl

/-- What the map has under a label is what is read by that label. -/
theorem get?_agrees (h : row.toMap.run.eval answer = .ok m) (label : String) :
    (∃ v, m.get? label = some v ∧ (row.getByLabel label).run.eval answer = .ok v) ∨
      m.get? label = none ∧
        (row.getByLabel label).run.eval answer = .error (.misuse (.columnLabel label)) := by
  have hfind := find?_of_forall₂ (mapM_ok_iff.mp (toMap_ok.mp h)) (p := (sameLabel ·.1 label))
    (q := (sameLabel ·.1.name label)) fun e x hx => by rw [(entry_ok.mp hx).1]
  rw [getByLabel_eval, findColumn_eq, RowMap.get?]
  revert hfind
  cases m.entries.find? (sameLabel ·.1 label) <;>
    cases row.leading.find? (sameLabel ·.1.name label) <;> intro hfind
  · exact .inr ⟨rfl, rfl⟩
  · cases hfind
  · cases hfind
  · cases hfind with
    | some he => exact .inl ⟨_, rfl, (entry_ok.mp he).2⟩

end Row

/-! ## Rows of a cursor -/

namespace Driver

variable {σ α : Type} {d : Driver σ} {c : CursorId} {Q : Session σ → Prop} {s s' : Session σ}

/-- What a reading of the row that a cursor is on comes to. -/
def reads (d : Driver σ) (c : CursorId) (s : Session σ) (reading : CellReading Error α) :
    Except Error α :=
  ((d.readRow c reading).run s).1

/-- In all sessions with `Q` a cell is told in the same way, and telling it keeps `Q`. -/
def PureReads (d : Driver σ) (c : CursorId) (Q : Session σ → Prop) : Prop :=
  ∀ r, ∃ answer, Triple Q (d.answerCell c r).run fun a s => a = answer ∧ Q s

theorem PureReads.reads_eq {answer : (r : CellRead) → Except Failure r.Answer}
    (h : ∀ r, Triple Q (d.answerCell c r).run fun a s => a = answer r ∧ Q s) (hs : Q s)
    (reading : CellReading Error α) : d.reads c s reading = reading.run.eval answer :=
  ((Reading.Within.of_forall (P := fun _ => True) (fun _ => trivial) reading.run).run_eq_eval
    (fun r _ => h r) s hs).1

/-- A row as a map and the same row read by label say the same of every label, whether it is one of
several up to letter case or none. The map is made of the first columns with their labels, and only
those have to be readable. -/
theorem map_agrees_with_labels (hpure : d.PureReads c Q) (row : Row) (hs : Q s) (hs' : Q s') :
    (∀ m, d.reads c s row.toMap = .ok m →
      (∀ label, (∀ v, m.get? label = some v ↔ d.reads c s' (row.getByLabel label) = .ok v) ∧
        (m.get? label = none ↔
          ∃ reason, d.reads c s' (row.getByLabel label) = .error (.misuse reason))) ∧
      List.Forall₂ (fun e x => e.1 = x.1.name ∧ d.reads c s' (row.get x.2) = .ok e.2)
        m.entries row.leading) ∧
    ((∃ m, d.reads c s row.toMap = .ok m) ↔
      ∀ x ∈ row.leading, ∃ v, d.reads c s' (row.get x.2) = .ok v) ∧
    row.toMap.run.Within fun r => r.index ∈ row.leading.map (·.2) := by
  choose answer hanswer using hpure
  have read {α : Type} (reading : CellReading Error α) := PureReads.reads_eq hanswer hs reading
  have read' {α : Type} (reading : CellReading Error α) := PureReads.reads_eq hanswer hs' reading
  simp only [read, read']
  refine ⟨fun m hm => ⟨fun label => ?_, ?_⟩, Row.exists_toMap_ok, row.toMap_within⟩
  · obtain ⟨v, hget, hread⟩ | ⟨hget, hread⟩ := Row.get?_agrees hm label <;> simp [hget, hread]
  · exact (Row.mapM_ok_iff.mp (Row.toMap_ok.mp hm)).imp fun _ _ => Row.entry_ok.mp

/-- The second column has no cell at all; its label is that of the first. -/
theorem map_agrees_with_labels_shadowed :
    let columns : List Column := [⟨"ID", .bigInt⟩, ⟨"id", .bigInt⟩]
    let s : Session Database.Memory :=
      { database := { cursors := [(⟨1⟩, { columns, row := some [.int 7], ahead := [] })] } }
    let row := Row.ofColumns columns
    Database.Memory.driver.PureReads ⟨1⟩ (· = s) ∧
      (∃ m, Database.Memory.driver.reads ⟨1⟩ s row.toMap = .ok m ∧ m.get? "Id" = some (.int 7)) ∧
      ∃ e, Database.Memory.driver.reads ⟨1⟩ s (row.get 2) = .error e := by
  intro columns s row
  have hpure : Database.Memory.driver.PureReads ⟨1⟩ (· = s) := by
    intro r
    refine ⟨(Database.Memory.driver.answerCell ⟨1⟩ r s).1, fun s' hs' => ?_⟩
    cases hs'
    cases r <;> exact ⟨rfl, rfl⟩
  obtain ⟨hagrees, hreadable, -⟩ := map_agrees_with_labels hpure row rfl rfl
  have hlabel : Database.Memory.driver.reads ⟨1⟩ s (row.getByLabel "Id") = .ok (.int 7) := by decide
  obtain ⟨m, hm⟩ := hreadable.mpr fun x hx => by
    have hleading : row.leading = [(⟨"ID", .bigInt⟩, 1)] := by decide
    cases List.mem_singleton.mp (hleading ▸ hx)
    exact ⟨.int 7, by decide⟩
  exact ⟨hpure, ⟨m, hm, ((hagrees m hm).1 "Id").1 (.int 7) |>.mpr hlabel⟩, _, rfl⟩

end Driver

end SqlGateway
