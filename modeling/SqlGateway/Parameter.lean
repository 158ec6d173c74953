import SqlGateway.SqlType
import SqlGateway.Value.Basic

/-!
# Parameters of procedure calls

A parameter passes a value in, takes a value of a declared type out, or does both. One without a
name is positional.
-/

namespace SqlGateway

inductive Direction where
  | input (value : Value)
  | output (type : SqlType)
  | inOut (value : Value) (type : SqlType)
  deriving DecidableEq

namespace Direction

def same : Direction → Direction → Bool
  | .input v, .input w => v == w
  | .output t, .output u => t == u
  | .inOut v t, .inOut w u => v == w && t == u
  | _, _ => false

instance : BEq Direction := ⟨same⟩

end Direction

structure Parameter where
  name : String
  direction : Direction
  deriving DecidableEq

namespace Parameter

def input (value : Value) : Parameter :=
  ⟨"", .input value⟩

instance : BEq Parameter := ⟨fun p q => p.name == q.name && p.direction == q.direction⟩

def isNamed (p : Parameter) : Bool :=
  !p.name.isEmpty

def value? (p : Parameter) : Option Value :=
  match p.direction with
  | .input v | .inOut v _ => some v
  | .output _ => none

def outType? (p : Parameter) : Option SqlType :=
  match p.direction with
  | .output t | .inOut _ t => some t
  | .input _ => none

def isIn (p : Parameter) : Bool :=
  p.value?.isSome

def isOut (p : Parameter) : Bool :=
  p.outType?.isSome

end Parameter

end SqlGateway
