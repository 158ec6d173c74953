import SqlGateway.Client.Access
import SqlGateway.Proofs.Conduct.Traced

/-!
# Programs that pass errors on

A program of the caller asks for values. It passes errors on if it comes to the first error that it
meets, be it that of a question or that of a value which is not of the kind that was asked for.
Other errors it comes to are its own.
-/

namespace SqlGateway

variable {ρ α β : Type} {A : ρ → Type} {refuses : (r : ρ) → A r → Failure → Prop}
    {own : Error → Prop}

/-- A reader that asks for the cell reports the failure, as the value cannot be read as its kind. -/
def CellRead.Refuses (r : CellRead) (a : r.Answer) (f : Failure) : Prop :=
  ∃ (reader : Reader) (index : Nat)
    (next : Except Failure r.Answer → Reading CellRead CellRead.Answer (Except Failure Value)),
    (reader.read index).run = .ask r next ∧ next (.ok a) = .done (.error f)

namespace Reading

/-- Errors that are met are passed on, and others are the program's own. -/
def PassesOn (refuses : (r : ρ) → A r → Failure → Prop) (own : Error → Prop) :
    Reading ρ A (Except Error α) → Prop
  | .done (.ok _) => True
  | .done (.error e) => own e
  | .ask r next =>
    (∀ f, (next (.error f)).Always (· = .error (.ofFailure f))) ∧
      ∀ a, (next (.ok a)).PassesOn refuses own ∨
        ∃ f, refuses r a f ∧ (next (.ok a)).Always (· = .error (.ofFailure f))

namespace PassesOn

theorem bind {reading : ExceptT Error (Reading ρ A) α} {f : α → ExceptT Error (Reading ρ A) β}
    (h : reading.run.PassesOn refuses own) (hf : ∀ a, (f a).run.PassesOn refuses own) :
    (reading >>= f).run.PassesOn refuses own := by
  have carried {p : Reading ρ A (Except Error α)} {e : Error} (hp : p.Always (· = .error e)) :
      (p >>= ExceptT.bindCont f).Always (· = .error e) :=
    hp.bind fun r hr => by
      subst hr
      rfl
  change (reading.run >>= ExceptT.bindCont f).PassesOn refuses own
  generalize reading.run = p at h
  induction p with
  | done r =>
      cases r with
      | ok a => exact hf a
      | error e => exact h
  | ask r next ih =>
      refine ⟨fun e => carried (h.1 e), fun a => (h.2 a).imp (ih (.ok a)) fun ⟨e, hr, ha⟩ => ?_⟩
      exact ⟨e, hr, carried ha⟩

theorem map {reading : ExceptT Error (Reading ρ A) α} (f : α → β)
    (h : reading.run.PassesOn refuses own) : (f <$> reading).run.PassesOn refuses own := by
  rw [map_eq_pure_bind]
  exact bind h fun _ => trivial

theorem mapM {f : α → ExceptT Error (Reading ρ A) β} (h : ∀ a, (f a).run.PassesOn refuses own)
    (as : List α) : (as.mapM f).run.PassesOn refuses own := by
  induction as with
  | nil => trivial
  | cons a as ih =>
      rw [List.mapM_cons]
      exact bind (h a) fun b => bind ih fun bs => trivial

theorem ofExcept {r : Except Error α} (h : ∀ e, r = .error e → own e) :
    (ExceptT.mk (pure r) : ExceptT Error (Reading ρ A) α).run.PassesOn refuses own := by
  cases r with
  | ok a => trivial
  | error e => exact h e rfl

end PassesOn

end Reading

/-! ## Rows -/

theorem readAs_run {γ δ : Type} (convert : Value → Except Failure (Option γ)) (wrap : Option γ → δ)
    (index : Nat) : (wrap <$> readAs convert index).run =
      .ask (.object index) fun answer => .done ((answer >>= convert).map wrap) := by
  refine congrArg (Reading.ask _) (funext fun answer => ?_)
  cases answer with
  | error f => rfl
  | ok value =>
      change Reading.bind (.done (convert value)) _ = .done ((convert value).map wrap)
      cases convert value <;> rfl

theorem Reader.read_asks (reader : Reader) (index : Nat) :
    ∃ r next, (reader.read index).run = .ask r next ∧ (∀ f, next (.error f) = .done (.error f)) ∧
      ∀ a, ∃ result, next (.ok a) = .done result := by
  cases reader with
  | object => exact ⟨_, _, rfl, fun _ => rfl, fun _ => ⟨_, rfl⟩⟩
  | binaryStream | characterStream =>
      refine ⟨_, _, rfl, fun _ => rfl, fun a => ?_⟩
      cases a <;> exact ⟨_, rfl⟩
  | _ => exact ⟨_, _, readAs_run .., fun _ => rfl, fun _ => ⟨_, rfl⟩⟩

theorem CellRead.refuses_of_convert {reader : Reader} {γ : Type}
    {convert : Value → Except Failure (Option γ)} {wrap : Option γ → Value} {index : Nat}
    (h : reader.read index = wrap <$> readAs convert index) {a : Value} {f : Failure}
    (hf : convert a = .error f) : CellRead.Refuses (.object index) a f := by
  refine ⟨reader, index, _, (congrArg ExceptT.run h).trans (readAs_run convert wrap index), ?_⟩
  change Reading.done ((convert a).map wrap) = _
  rw [hf]
  rfl

namespace Row

open Reading (PassesOn)

variable (row : Row)

theorem passesOn_checkIndex (hown : ∀ reason, own (.misuse reason)) (index : Nat) :
    (ExceptT.mk (pure (row.checkIndex index)) : CellReading Error Unit).run.PassesOn
      CellRead.Refuses own := by
  refine PassesOn.ofExcept fun e he => ?_
  unfold checkIndex at he
  split at he <;> cases he
  exact hown _

theorem passesOn_findColumn (hown : ∀ reason, own (.misuse reason)) (label : String) :
    (ExceptT.mk (pure (row.findColumn label)) : CellReading Error Nat).run.PassesOn
      CellRead.Refuses own := by
  refine PassesOn.ofExcept fun e he => ?_
  unfold findColumn at he
  split at he <;> cases he
  exact hown _

theorem passesOn_read (reader : Reader) (index : Nat) :
    (surfaced (reader.read index)).run.PassesOn CellRead.Refuses own := by
  obtain ⟨r, next, hread, herror, hok⟩ := reader.read_asks index
  change (reader.read index).run.bind _ |>.PassesOn _ _
  rw [hread]
  refine ⟨fun f => ?_, fun a => ?_⟩
  · dsimp only
    rw [herror]
    rfl
  · obtain ⟨result, hresult⟩ := hok a
    dsimp only
    rw [hresult]
    cases result with
    | ok value => exact .inl trivial
    | error f => exact .inr ⟨f, ⟨reader, index, next, hread, hresult⟩, rfl⟩

theorem passesOn_get (hown : ∀ reason, own (.misuse reason)) (index : Nat) :
    (row.get index).run.PassesOn CellRead.Refuses own :=
  PassesOn.bind (row.passesOn_checkIndex hown index) fun _ => passesOn_read _ index

theorem passesOn_getAs (hown : ∀ reason, own (.misuse reason)) {γ : Type} (reader : Reader)
    {convert : Value → Except Failure (Option γ)} {wrap : Option γ → Value}
    (h : ∀ index, reader.read index = wrap <$> readAs convert index) (index : Nat) :
    (getAs convert row index).run.PassesOn CellRead.Refuses own := by
  refine PassesOn.bind (row.passesOn_checkIndex hown index) fun _ => ?_
  have hread := readAs_run convert id index
  rw [id_map] at hread
  change (readAs convert index).run.bind _ |>.PassesOn _ _
  rw [hread]
  refine ⟨fun f => rfl, fun a => ?_⟩
  change (Reading.bind (.done ((convert a).map id)) _).PassesOn _ _ ∨ _
  cases ha : convert a with
  | ok value => exact .inl trivial
  | error f =>
      refine .inr ⟨f, CellRead.refuses_of_convert (h index) ha, ?_⟩
      change (Reading.bind (.done ((convert a).map id)) _).Always _
      rw [ha]
      rfl

theorem passesOn_addColumns {index : Nat} {columns : List Column} (hi : 0 < index)
    (hc : index + columns.length ≤ row.columnCount + 1) (m : RowMap) :
    (row.addColumns index m columns).run.PassesOn CellRead.Refuses own := by
  induction columns generalizing index m with
  | nil => trivial
  | cons column columns ih =>
      rw [List.length_cons] at hc
      have hrest (m : RowMap) :
          (row.addColumns (index + 1) m columns).run.PassesOn CellRead.Refuses own :=
        ih (by omega) (by omega) m
      unfold addColumns
      split
      · exact hrest m
      · refine PassesOn.bind (PassesOn.bind (PassesOn.ofExcept fun e he => ?_) fun _ =>
          passesOn_read _ index) fun value => hrest _
        have hin : ¬ (index = 0 ∨ row.columnCount < index) := by omega
        simp [checkIndex, hin] at he

theorem passesOn_toMap : row.toMap.run.PassesOn CellRead.Refuses own :=
  row.passesOn_addColumns Nat.one_pos (by simp [columnCount, Nat.add_comm]) {}

end Row

/-- What an access raises itself is a misuse of the row. -/
theorem RowAccess.passesOn_read (hown : ∀ reason, own (.misuse reason))
    (hunsupported : own .unsupportedOperation) (row : Row) (access : RowAccess) :
    (access.read row).run.PassesOn CellRead.Refuses own := by
  cases access with
  | get index => exact .map _ (row.passesOn_get hown index)
  | getByLabel label =>
      exact .map _ (.bind (row.passesOn_findColumn hown label) (row.passesOn_get hown))
  | findColumn label => exact .map _ (row.passesOn_findColumn hown label)
  | columns | columnCount => trivial
  | getBool index => exact .map _ (row.passesOn_getAs hown .bool (fun _ => rfl) index)
  | getInteger index => exact .map _ (row.passesOn_getAs hown .integer (fun _ => rfl) index)
  | getFloat index => exact .map _ (row.passesOn_getAs hown .float (fun _ => rfl) index)
  | getDecimal index => exact .map _ (row.passesOn_getAs hown .decimal (fun _ => rfl) index)
  | getText index => exact .map _ (row.passesOn_getAs hown .text (fun _ => rfl) index)
  | getBytes index => exact .map _ (row.passesOn_getAs hown .bytes (fun _ => rfl) index)
  | getDate index => exact .map _ (row.passesOn_getAs hown .date (fun _ => rfl) index)
  | getTime index => exact .map _ (row.passesOn_getAs hown .time (fun _ => rfl) index)
  | getTimestamp index => exact .map _ (row.passesOn_getAs hown .timestamp (fun _ => rfl) index)
  | toMap => exact .map _ row.passesOn_toMap
  | move m => exact hunsupported
  | edit e => exact hunsupported

theorem RowAccess.passesOn_mapper (hown : ∀ reason, own (.misuse reason))
    (hunsupported : own .unsupportedOperation) (accesses : List RowAccess) (row : Row) :
    (mapper accesses row).run.PassesOn CellRead.Refuses own :=
  .map _ (.mapM (passesOn_read hown hunsupported row) accesses)

/-! ## Output parameters -/

/-- Output values are taken as they come. -/
def OutRead.Refuses (r : OutRead) (_ : r.Answer) (_ : Failure) : Prop :=
  False

theorem OutSlot.passesOn_read (slot : OutSlot) : slot.read.run.PassesOn OutRead.Refuses own :=
  ⟨fun _ => rfl, fun _ => .inl trivial⟩

theorem OutAccess.passesOn_read (hown : ∀ reason, own (.misuse reason)) (slots : List OutSlot)
    (access : OutAccess) : (access.read slots).run.PassesOn OutRead.Refuses own := by
  cases access with
  | get position =>
      refine .map _ ?_
      unfold OutSlot.get
      split
      · exact OutSlot.passesOn_read _
      · exact hown _
  | getByName name =>
      refine .map _ ?_
      unfold OutSlot.getByName
      split
      · exact OutSlot.passesOn_read _
      · exact hown _
  | values => exact .map _ (.mapM OutSlot.passesOn_read slots)
  | slots => trivial
  | fail text => exact hown _

theorem OutAccess.passesOn_mapper (hown : ∀ reason, own (.misuse reason))
    (accesses : List OutAccess) (slots : List OutSlot) :
    (mapper accesses slots).run.PassesOn OutRead.Refuses own :=
  .map _ (.mapM (passesOn_read hown slots) accesses)

end SqlGateway
