import SqlGateway.Text.Basic
import SqlGateway.Value.Basic

/-!
# Rows as maps

The default form of a row: labels and values in the order in which the labels first came. Labels
are compared up to ASCII letter case, and the first spelling of a label is kept.
-/

namespace SqlGateway

open Text

structure RowMap where
  entries : List (String × Value) := []
  deriving DecidableEq

namespace RowMap

def get? (m : RowMap) (label : String) : Option Value :=
  (m.entries.find? fun e => sameLabel e.1 label).map (·.2)

def contains (m : RowMap) (label : String) : Bool :=
  (m.get? label).isSome

def replace (label : String) (value : Value) : List (String × Value) → List (String × Value)
  | [] => []
  | e :: es => if sameLabel e.1 label then (e.1, value) :: es else e :: replace label value es

/-- Puts a value under a label, in place of the one that is there. -/
def insert (m : RowMap) (label : String) (value : Value) : RowMap :=
  if m.contains label then ⟨replace label value m.entries⟩ else ⟨m.entries ++ [(label, value)]⟩

def size (m : RowMap) : Nat :=
  m.entries.length

def isEmpty (m : RowMap) : Bool :=
  m.entries.isEmpty

end RowMap

end SqlGateway
