import SqlGateway.Client.Access
import SqlGateway.Parameter
import SqlGateway.Proofs.Act.Reading

/-!
# Asking for output values

The values that the parameters of a call pass in, and the slots for those that they take out. Each
question about a slot is asked by its position, and what can be asked about the slots by position or
by name comes to the value of the parameter that is meant.
-/

namespace SqlGateway

variable {α : Type}

/-! ## Parameters and their positions -/

namespace Parameter

/-- The value that a parameter at a position passes in. -/
def bound? (param : Parameter) (position : Nat) : Option (Nat × Value) :=
  param.value?.map (position, ·)

/-- The slot for the value that a parameter at a position takes out. -/
def slot? (param : Parameter) (position : Nat) : Option OutSlot :=
  param.outType?.map fun type => ⟨position, param.name, type⟩

def inputs (params : List Parameter) : List Value :=
  params.filterMap value?

def boundFrom (position : Nat) (params : List Parameter) : List (Nat × Value) :=
  (params.zipIdx position).filterMap fun (param, position) => param.bound? position

def slotsFrom (position : Nat) (params : List Parameter) : List OutSlot :=
  (params.zipIdx position).filterMap fun (param, position) => param.slot? position

/-- The parameters that take a value out, in order. -/
def outputs (params : List Parameter) : List OutSlot :=
  slotsFrom 1 params

/-- The parameter at the position takes a value out. -/
def OutAt (params : List Parameter) (position : Nat) : Prop :=
  ∃ param, 0 < position ∧ params[position - 1]? = some param ∧ param.isOut = true

theorem boundFrom_cons (position : Nat) (param : Parameter) (params : List Parameter) :
    boundFrom position (param :: params) =
      (param.bound? position).toList ++ boundFrom (position + 1) params := by
  unfold boundFrom
  rw [List.zipIdx_cons, List.filterMap_cons]
  dsimp only
  cases param.bound? position <;> rfl

theorem slotsFrom_cons (position : Nat) (param : Parameter) (params : List Parameter) :
    slotsFrom position (param :: params) =
      (param.slot? position).toList ++ slotsFrom (position + 1) params := by
  unfold slotsFrom
  rw [List.zipIdx_cons, List.filterMap_cons]
  dsimp only
  cases param.slot? position <;> rfl

/-- The values come in the order of the parameters. -/
theorem map_boundFrom (position : Nat) (params : List Parameter) :
    (boundFrom position params).map (·.2) = inputs params := by
  induction params generalizing position with
  | nil => rfl
  | cons param params ih =>
      rw [boundFrom_cons, List.map_append, ih]
      unfold bound? inputs
      cases hv : param.value? with
      | none => rw [List.filterMap_cons_none hv]; rfl
      | some value => rw [List.filterMap_cons_some hv]; rfl

theorem slot?_position {param : Parameter} {position : Nat} {slot : OutSlot}
    (h : param.slot? position = some slot) : slot.position = position := by
  obtain ⟨type, -, rfl⟩ := Option.map_eq_some_iff.mp h
  rfl

theorem mem_outputs {params : List Parameter} {slot : OutSlot} :
    slot ∈ outputs params ↔ ∃ param, 0 < slot.position ∧
      params[slot.position - 1]? = some param ∧ param.slot? slot.position = some slot := by
  unfold outputs slotsFrom
  rw [List.mem_filterMap]
  constructor
  · rintro ⟨⟨param, position⟩, hmem, hslot⟩
    obtain rfl := slot?_position hslot
    obtain ⟨hpos, hget⟩ := List.mk_mem_zipIdx_iff_le_and_getElem?_sub.mp hmem
    exact ⟨param, hpos, hget, hslot⟩
  · rintro ⟨param, hpos, hget, hslot⟩
    have hmem := List.mk_mem_zipIdx_iff_le_and_getElem?_sub.mpr ⟨hpos, hget⟩
    exact ⟨(param, slot.position), hmem, hslot⟩

theorem outAt_iff {params : List Parameter} {position : Nat} :
    OutAt params position ↔ ∃ slot ∈ outputs params, slot.position = position := by
  constructor
  · rintro ⟨param, hpos, hget, hout⟩
    obtain ⟨type, htype⟩ := Option.isSome_iff_exists.mp hout
    exact ⟨⟨position, param.name, type⟩, mem_outputs.mpr ⟨param, hpos, hget,
      congrArg (Option.map _) htype⟩, rfl⟩
  · rintro ⟨slot, hslot, rfl⟩
    obtain ⟨param, hpos, hget, hslot⟩ := mem_outputs.mp hslot
    obtain ⟨type, htype, -⟩ := Option.map_eq_some_iff.mp hslot
    exact ⟨param, hpos, hget, Option.isSome_iff_exists.mpr ⟨type, htype⟩⟩

end Parameter

/-! ## Asking for output values -/

namespace OutSlot

/-- The question is about one of the slots. -/
def Asked (slots : List OutSlot) (r : OutRead) : Prop :=
  ∃ slot ∈ slots, r = ⟨slot.position, slot.type⟩

/-- The slot has a name, and it is that one but for its spelling. -/
def IsNamed (name : String) (slot : OutSlot) : Prop :=
  slot.name ≠ "" ∧ canonicalName slot.name = canonicalName name

/-- Every question has an answer: the value at the position. -/
def told (value : Nat → Value) (r : OutRead) : Except Failure r.Answer :=
  .ok (value r.position)

variable {slots : List OutSlot} {slot : OutSlot}

theorem read_eval (value : Nat → Value) (slot : OutSlot) :
    slot.read.run.eval (told value) = .ok (value slot.position) :=
  rfl

theorem read_within (h : slot ∈ slots) : slot.read.run.Within (Asked slots) :=
  ⟨⟨slot, h, rfl⟩, fun _ => trivial⟩

theorem get_within (position : Nat) : (get slots position).run.Within (Asked slots) := by
  unfold get
  split
  · rename_i slot hfound
    exact read_within (List.mem_of_find?_eq_some hfound)
  · trivial

theorem getByName_within (name : String) : (getByName slots name).run.Within (Asked slots) := by
  unfold getByName
  split
  · rename_i slot hfound
    exact read_within (List.mem_of_find?_eq_some hfound)
  · trivial

theorem values_within : (values slots).run.Within (Asked slots) :=
  Reading.Within.mapM fun _ hslot => read_within hslot

end OutSlot

/-- The mapper asks about no other parameters than it is given. -/
def OutMapper.BySlot (mapper : OutMapper α) : Prop :=
  ∀ slots, (mapper slots).run.Within (OutSlot.Asked slots)

/-- What a client can ask is about the parameters that it is given. -/
theorem OutAccess.mapper_bySlot (accesses : List OutAccess) : (mapper accesses).BySlot := by
  intro slots
  refine Reading.Within.map _ (Reading.Within.mapM fun access _ => ?_)
  cases access with
  | get position => exact Reading.Within.map _ (OutSlot.get_within position)
  | getByName name => exact Reading.Within.map _ (OutSlot.getByName_within name)
  | values => exact Reading.Within.map _ OutSlot.values_within
  | slots | fail => trivial

/-- What is asked about the output parameters of a call is answered as it should be, where `value`
gives the values by position. -/
structure Parameter.Answered (params : List Parameter) (value : Nat → Value) : Prop where
  values : (OutSlot.values (outputs params)).run.eval (OutSlot.told value) =
    .ok ((outputs params).map (value ·.position))
  get {position : Nat} : OutAt params position →
    (OutSlot.get (outputs params) position).run.eval (OutSlot.told value) = .ok (value position)
  noPosition {position : Nat} : ¬ OutAt params position →
    (OutSlot.get (outputs params) position).run.eval (OutSlot.told value) =
      .error (.misuse (.outPosition position))
  /-- The first parameter with the name is meant. -/
  getByName {name : String} {before after : List OutSlot} {slot : OutSlot} :
    outputs params = before ++ slot :: after → slot.IsNamed name →
    (∀ other ∈ before, ¬ other.IsNamed name) →
    (OutSlot.getByName (outputs params) name).run.eval (OutSlot.told value) =
      .ok (value slot.position)
  noName {name : String} : (∀ slot ∈ outputs params, ¬ slot.IsNamed name) →
    (OutSlot.getByName (outputs params) name).run.eval (OutSlot.told value) =
      .error (.misuse (.outName name))

theorem OutSlot.isNamed_iff {name : String} {slot : OutSlot} :
    (!slot.name.isEmpty && canonicalName slot.name == canonicalName name) = true ↔
      slot.IsNamed name := by
  simp [IsNamed]

theorem Parameter.answered (params : List Parameter) (value : Nat → Value) :
    Answered params value where
  values := by
    unfold OutSlot.values
    rw [Reading.eval_mapM]
    simp only [OutSlot.read_eval]
    exact List.mapM_pure
  get {position} h := by
    obtain ⟨slot, hslot, hpos⟩ := outAt_iff.mp h
    unfold OutSlot.get
    split
    · rename_i found hfound
      have hposition : found.position = position := by simpa using List.find?_some hfound
      rw [OutSlot.read_eval, hposition]
    · rename_i hnone
      have hother := List.find?_eq_none.mp hnone slot hslot
      simp [hpos] at hother
  noPosition {position} h := by
    unfold OutSlot.get
    rw [List.find?_eq_none.mpr fun slot hslot hpos =>
      h (outAt_iff.mpr ⟨slot, hslot, by simpa using hpos⟩)]
    rfl
  getByName {name before after slot} hsplit hnamed hbefore := by
    have hfound : (outputs params).find? (fun slot =>
        !slot.name.isEmpty && canonicalName slot.name == canonicalName name) = some slot := by
      refine List.find?_eq_some_iff_append.mpr ⟨OutSlot.isNamed_iff.mpr hnamed, before,
        after, hsplit,
        fun other hother => ?_⟩
      rw [Bool.not_eq_true', Bool.eq_false_iff]
      exact fun h => hbefore other hother (OutSlot.isNamed_iff.mp h)
    unfold OutSlot.getByName
    rw [hfound]
    rfl
  noName {name} h := by
    unfold OutSlot.getByName
    rw [List.find?_eq_none.mpr fun slot hslot hnamed =>
      h slot hslot (OutSlot.isNamed_iff.mp hnamed)]
    rfl

end SqlGateway
