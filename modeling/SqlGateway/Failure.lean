import SqlGateway.Text.Blank

/-!
# Driver failures

What a driver reports when a call fails: a message and the messages of its causes, outermost
first. A driver that leaves an optional call out reports it as unsupported.
-/

namespace SqlGateway

inductive FailureKind where
  | failed
  | unsupported
  deriving DecidableEq, Repr

structure Failure where
  kind : FailureKind
  message : String
  causes : List String
  deriving DecidableEq, Repr

namespace Failure

def plain (message : String) : Failure :=
  ⟨.failed, message, []⟩

def unsupported (operation : String) : Failure :=
  ⟨.unsupported, operation ++ " is not supported by this driver", []⟩

def isUnsupported (f : Failure) : Bool :=
  f.kind == .unsupported

open Text in
/-- A cause is added after a space, unless it is blank or the message already ends with it. -/
def addCause (message cause : List Char) : List Char :=
  let cause := trim cause
  if cause.isEmpty || cause.isSuffixOf message then message else message ++ ' ' :: cause

def chain (f : Failure) : String :=
  .ofList ((f.causes.map String.toList).foldl addCause (Text.trim f.message.toList))

end Failure

end SqlGateway
