import SqlGateway.Error
import SqlGateway.Parameter
import SqlGateway.Sql.Binding
import SqlGateway.Sql.Placeholder

/-!
# Resolution

Named placeholders become question marks, in the order of the text. A placeholder bound to several
values becomes as many question marks; one that is not bound stays as it is. The values come in the
order of their question marks.
-/

namespace SqlGateway.Sql

variable {α : Type}

/-- The bindings by canonical name, in order, each name once. Each binding has a value, and one
that repeats a name agrees with the first of that name. -/
def canonicalBindings [BEq α] (bindings : Bindings α) : Except Misuse (Bindings α) :=
  bindings.foldlM (fun known (name, binding) =>
    let name := canonicalName name
    if binding.isEmpty then .error (.emptyBinding name)
    else match known.lookup name with
      | some first =>
        if first == binding then .ok known else .error (.ambiguousBinding name)
      | none => .ok (known ++ [(name, binding)])) []

def questionMarks : Nat → List Char
  | 0 => []
  | 1 => ['?']
  | n + 1 => '?' :: ',' :: ' ' :: questionMarks n

def substitute (known : Bindings α) : Piece → List Char × List α
  | .plain c => ([c], [])
  | .placeholder word =>
    match known.lookup (.ofList (':' :: word)) with
    | some binding => (questionMarks binding.values.length, binding.values)
    | none => (':' :: word, [])

structure Resolved (α : Type) where
  sql : String
  values : List α

def resolve [BEq α] (sql : String) (bindings : Bindings α) : Except Error (Resolved α) :=
  match canonicalBindings bindings with
  | .error reason => .error (.misuse reason)
  | .ok known =>
    let parts := (pieces sql.toList).map (substitute known)
    .ok ⟨.ofList (parts.flatMap (·.1)), parts.flatMap (·.2)⟩

/-! ## Styles of parameters -/

def checkUniform (params : List Parameter) : Except Error Unit :=
  if params.any (·.isNamed) && params.any (!·.isNamed) then .error (.misuse .mixedStyles)
  else .ok ()

def checkPositional (sql : String) (count : Nat) : Except Error Unit :=
  if 0 < count && hasNamedPlaceholders sql then .error (.misuse (.positionalForNamed sql))
  else .ok ()

/-- Named call parameters are resolved like other bindings, positional ones stay as they are. -/
def resolveCall (sql : String) (params : List Parameter) :
    Except Error (Resolved Parameter) := do
  checkUniform params
  if (params.head?.map Parameter.isNamed).getD false then
    resolve sql (params.map fun p => (p.name, .one p))
  else return ⟨sql, params⟩

end SqlGateway.Sql
