import SqlGateway.Sql.CallForm
import SqlGateway.Statement.Kind
import SqlGateway.Text.Basic
import SqlGateway.Text.LowerCase

/-!
# Classification

The kind of a normalized text: a procedure call if it has that form, else DML if one of the words
`insert`, `update` and `delete` occurs anywhere in its lower-case form, else a select.
-/

namespace SqlGateway.Sql

open Text

def dmlKeywords : List (List Char) :=
  ["insert".toList, "update".toList, "delete".toList]

def isProcedureCall (sql : String) : Bool :=
  isCallForm sql.toList

def isDml (sql : String) : Bool :=
  let text := lower sql.toList
  dmlKeywords.any (occurs · text)

def classify (sql : String) : StatementKind :=
  if isProcedureCall sql then .procedureCall
  else if isDml sql then .dml
  else .select

end SqlGateway.Sql
