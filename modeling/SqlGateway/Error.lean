import SqlGateway.Failure
import SqlGateway.Statement.Kind

/-!
# Errors

What a caller is told. A text that is no query is malformed; a misuse is found before any
connection is touched or by the caller's own reading of rows; what a driver reports while it
prepares, executes, fetches or commits is a failed execution. Each error has one wording.
-/

namespace SqlGateway

/-- Why a text is no query. Offsets count UTF-8 bytes of the text without line comments. -/
inductive Malformed where
  | missing
  | delimiterCount (opened closed : Nat)
  | unmatchedClose (offset : Nat)
  | nestedOpen (offset : Nat)
  | onlyComments
  deriving DecidableEq, Repr

inductive Misuse where
  | emptyBinding (name : String)
  | ambiguousBinding (name : String)
  | mixedStyles
  | positionalForNamed (sql : String)
  | unevenRows
  | rowWidth (row width expected : Nat)
  | unequalTexts (template first next : String)
  | notOfKind (sql : String) (kind : StatementKind)
  | notCall (sql : String)
  | columnIndex (index count : Nat)
  | columnLabel (label : String)
  | outPosition (position : Nat)
  | outName (name : String)
  | caller (text : String)
  deriving DecidableEq, Repr

inductive ExecutionFailure where
  | driver (message : String)
  | connectionClosed
  | notConfigurable (phase : StatementPhase)
  | notExecutable (phase : StatementPhase)
  | noResults (phase : StatementPhase)
  | caller (text : String)
  deriving DecidableEq, Repr

inductive Error where
  | malformed (reason : Malformed)
  | misuse (reason : Misuse)
  | execution (reason : ExecutionFailure)
  | unsupportedOperation
  deriving DecidableEq, Repr

/-! ## Wording -/

def Malformed.message : Malformed → String
  | .missing => "SQL query must be provided"
  | .delimiterCount opened closed =>
    s!"Multiline comments open/close tags count mismatch ({opened} opened, {closed} closed)"
  | .unmatchedClose offset => s!"Unmatched end of multiline comment at {offset}"
  | .nestedOpen offset => s!"Nested multiline comment at {offset}"
  | .onlyComments => "SQL query contains nothing but comments"

def Misuse.message : Misuse → String
  | .emptyBinding name => s!"Binding {name} has no values"
  | .ambiguousBinding name => s!"Ambiguous duplicate binding for {name}"
  | .mixedStyles => "Cannot combine named parameters with positional ones"
  | .positionalForNamed sql =>
    s!"Positional parameters supplied for a query with named placeholders: {sql}"
  | .unevenRows => "All batch rows must have the same number of values"
  | .rowWidth row width expected => s!"Batch row {row} has {width} values, expected {expected}"
  | .unequalTexts template first next =>
    s!"Batch rows rewrite '{template}' differently: '{first}' and '{next}'"
  | .notOfKind sql kind => s!"Query '{sql}' is not a valid {kind.label} statement"
  | .notCall sql => s!"Query '{sql}' is not a valid procedure call statement"
  | .columnIndex index count => s!"Column index {index} out of range 1..={count}"
  | .columnLabel label => s!"No column labeled {label}"
  | .outPosition position => s!"Parameter {position} is not an OUT parameter"
  | .outName name => s!"No OUT parameter named {name}"
  | .caller text => text

def ExecutionFailure.message : ExecutionFailure → String
  | .driver message => message
  | .connectionClosed => "Connection is closed"
  | .notConfigurable phase => s!"Cannot configure a statement in state {phase.label}"
  | .notExecutable phase => s!"Statement cannot be executed in state {phase.label}"
  | .noResults phase => s!"Statement in state {phase.label} cannot produce results"
  | .caller text => text

def Error.message : Error → String
  | .malformed reason => "Malformed query: " ++ reason.message
  | .misuse reason => "Invalid argument: " ++ reason.message
  | .execution reason => reason.message
  | .unsupportedOperation => "Unsupported operation"

def Error.ofFailure (f : Failure) : Error :=
  .execution (.driver f.chain)

end SqlGateway
