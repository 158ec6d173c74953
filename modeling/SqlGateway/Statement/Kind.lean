/-!
# Statement kinds and phases
-/

namespace SqlGateway

inductive StatementKind where
  | select
  | dml
  | procedureCall
  deriving DecidableEq, Repr

def StatementKind.label : StatementKind → String
  | .select => "select"
  | .dml => "DML"
  | .procedureCall => "procedure call"

/-- How far a guarded statement has come. -/
inductive StatementPhase where
  | prepared
  | succeeded
  | failed
  deriving DecidableEq, Repr

def StatementPhase.label : StatementPhase → String
  | .prepared => "Prepared"
  | .succeeded => "Succeeded"
  | .failed => "Failed"

end SqlGateway
