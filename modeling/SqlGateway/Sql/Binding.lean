import SqlGateway.Text.Blank
import SqlGateway.Value.Basic

/-!
# Bindings

What a caller binds to the named placeholders of a text. Names count in canonical form: without
white space around them and with a colon in front, letter case kept.
-/

namespace SqlGateway

/-- What is bound to one name: a value, or a collection of values. -/
inductive Binding (α : Type) where
  | one (a : α)
  | many (as : List α)
  deriving DecidableEq

namespace Binding

variable {α : Type}

def values : Binding α → List α
  | .one a => [a]
  | .many as => as

def isEmpty (b : Binding α) : Bool :=
  b.values.isEmpty

def same [BEq α] : Binding α → Binding α → Bool
  | .one a, .one b => a == b
  | .many as, .many bs => as == bs
  | _, _ => false

instance [BEq α] : BEq (Binding α) := ⟨same⟩

end Binding

/-- Bindings in the order in which they were given. A name may repeat. -/
abbrev Bindings (α : Type) := List (String × Binding α)

def Bindings.ofPairs (pairs : List (String × Value)) : Bindings Value :=
  pairs.map fun (name, value) => (name, .one value)

def canonicalName (name : String) : String :=
  match Text.trim name.toList with
  | ':' :: word => .ofList (':' :: word)
  | word => .ofList (':' :: word)

end SqlGateway
