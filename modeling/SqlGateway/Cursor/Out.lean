import SqlGateway.Reading
import SqlGateway.Sql.Binding

/-!
# Output parameters

After a call its output parameters hold values, which are asked for by position or by name.
-/

namespace SqlGateway

/-- An output parameter of a call: its position and name, and the type it was registered with. -/
structure OutSlot where
  position : Nat
  name : String
  type : SqlType
  deriving DecidableEq, Repr

structure OutRead where
  position : Nat
  type : SqlType
  deriving DecidableEq, Repr

abbrev OutRead.Answer : OutRead → Type := fun _ => Value

abbrev OutReading (ε α : Type) := ExceptT ε (Reading OutRead OutRead.Answer) α

abbrev OutMapper (α : Type) := List OutSlot → OutReading Error α

namespace OutSlot

def read (slot : OutSlot) : OutReading Error Value :=
  ExceptT.adapt Error.ofFailure (Reading.question ⟨slot.position, slot.type⟩)

def get (slots : List OutSlot) (position : Nat) : OutReading Error Value :=
  match slots.find? (·.position == position) with
  | some slot => slot.read
  | none => throw (.misuse (.outPosition position))

/-- The value of the first parameter with the name, in canonical form. -/
def getByName (slots : List OutSlot) (name : String) : OutReading Error Value :=
  match slots.find? fun slot =>
      !slot.name.isEmpty && canonicalName slot.name == canonicalName name with
  | some slot => slot.read
  | none => throw (.misuse (.outName name))

def values (slots : List OutSlot) : OutReading Error (List Value) :=
  slots.mapM read

end OutSlot

end SqlGateway
