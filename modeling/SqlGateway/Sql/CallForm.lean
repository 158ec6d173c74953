import SqlGateway.Text.Blank
import SqlGateway.Text.Word

/-!
# Procedure calls

A procedure call is written `call`, white space and the object's name, which has one to three
segments. A marker `? =` may come first and a list of question marks in parentheses may follow;
braces may stand around the whole. `call` is read in any letter case. Any one character but a line
feed separates two segments.
-/

namespace SqlGateway.Sql

open Text

/-- What is left after the optional marker `? =`. -/
def afterMarker (s : List Char) : List Char :=
  match s with
  | '?' :: r =>
    match trimStart r with
    | '=' :: r => trimStart r
    | _ => s
  | _ => s

def afterCall : List Char → Option (List Char)
  | c :: a :: l :: l' :: b :: s =>
    if [c, a, l, l'].map Char.toLower = ['c', 'a', 'l', 'l'] && isBlank b then some (trimStart s)
    else none
  | _ => none

/-- What is left after a segment, a run of word characters that ends where the next character is
none. -/
def afterSegment : List Char → Option (List Char)
  | c :: s => if isWord c then some (s.dropWhile isWord) else none
  | [] => none

/-- What is left after a name of one segment and at most `more` others. -/
def afterName : Nat → List Char → Option (List Char)
  | 0, s => afterSegment s
  | more + 1, s => do
    let rest ← afterSegment s
    match rest with
    | separator :: r =>
      if separator = '\n' then return rest
      else return (afterName more r).getD rest
    | [] => return rest

inductive ListPosition where
  | start
  | afterMark
  | afterComma

def afterMarks : ListPosition → List Char → Option (List Char)
  | _, [] => none
  | position, c :: s =>
    if isBlank c then afterMarks position s
    else match position, c with
      | .start, ')' | .afterMark, ')' => some s
      | .start, '?' | .afterComma, '?' => afterMarks .afterMark s
      | .afterMark, ',' => afterMarks .afterComma s
      | _, _ => none

def afterArguments (s : List Char) : Option (List Char) :=
  match trimStart s with
  | '(' :: r => afterMarks .start r
  | _ => none

def afterObject (s : List Char) : Option (List Char) :=
  (afterCall (afterMarker s)).bind (afterName 2)

def isCallForm (s : List Char) : Bool :=
  match s with
  | '{' :: r =>
    let closed (rest : List Char) : Bool := trimStart rest == ['}']
    (afterObject (trimStart r)).any fun rest => closed rest || (afterArguments rest).any closed
  | _ => (afterObject s).any fun rest => rest.isEmpty || (afterArguments rest).any List.isEmpty

end SqlGateway.Sql
