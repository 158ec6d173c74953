import SqlGateway.Sql.Comment
import SqlGateway.Text.Blank

/-!
# Normal form of a query

A query's text is used without comments, without white space around it, and with one space for
every longer run of white space inside it. A single white-space character stays as it is.
-/

namespace SqlGateway.Sql

open Text

/-- Puts one space for every run of two or more white-space characters. -/
def collapse : List Char → List Char
  | [] => []
  | c :: s =>
    match collapse s with
    | [] => [c]
    | d :: rest => if isBlank c && isBlank d then ' ' :: rest else c :: d :: rest

def normalForm (raw : List Char) : Except Malformed (List Char) := do
  if blank raw then throw .missing
  let text := withoutLineComments raw
  let spans ← commentSpans text
  let clean := trim (collapse (blankOut 0 spans text))
  if clean.isEmpty then throw .onlyComments
  return clean

def normalize (raw : String) : Except Error String :=
  match normalForm raw.toList with
  | .ok clean => .ok (.ofList clean)
  | .error reason => .error (.malformed reason)

end SqlGateway.Sql
