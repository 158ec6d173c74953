import SqlGateway.Error
import SqlGateway.Text.Basic

/-!
# Comments

A line comment runs from `--` to the end of its line and goes first, wherever it stands. Block
comments are found in what is left: the delimiters `/*` and `*/` are read from left to right
without overlap, and the i-th opening one belongs to the i-th closing one. String literals get no
special treatment.
-/

namespace SqlGateway.Sql

open Text

/-! ## Line comments -/

/-- The text with every line cut at its first `--`; `inside` says whether the cut has begun. -/
def cutLines (inside : Bool) : List Char → List Char
  | [] => []
  | '-' :: '-' :: s => cutLines true s
  | c :: s =>
    if c = '\n' then c :: cutLines false s
    else if inside then cutLines true s
    else c :: cutLines false s

def withoutLineComments (s : List Char) : List Char :=
  cutLines false s

/-! ## Block comments -/

structure Delimiter where
  opens : Bool
  offset : Nat
  deriving DecidableEq, Repr

def delimiters (offset : Nat) : List Char → List Delimiter
  | [] => []
  | '/' :: '*' :: s => ⟨true, offset⟩ :: delimiters (offset + 2) s
  | '*' :: '/' :: s => ⟨false, offset⟩ :: delimiters (offset + 2) s
  | c :: s => delimiters (offset + c.utf8Size) s

/-- A block comment: the offsets of its first byte and of the byte after its last. -/
structure Span where
  start : Nat
  stop : Nat
  deriving DecidableEq, Repr

/-- Pairs openings with ends. Each comment ends after it starts, and starts no sooner than the
one before it ends. -/
def pairSpans (previous : Nat) : List Nat → List Nat → Except Malformed (List Span)
  | start :: starts, stop :: stops =>
    if stop ≤ start then .error (.unmatchedClose (stop - 2))
    else if start < previous then .error (.nestedOpen start)
    else (pairSpans stop starts stops).map (⟨start, stop⟩ :: ·)
  | _, _ => .ok []

def commentSpans (s : List Char) : Except Malformed (List Span) :=
  let found := delimiters 0 s
  let starts := (found.filter (·.opens)).map (·.offset)
  let stops := (found.filter (!·.opens)).map (·.offset + 2)
  if starts.length = stops.length then pairSpans 0 starts stops
  else .error (.delimiterCount starts.length stops.length)

/-- The text, which starts at `offset`, with a space for each byte of a comment. -/
def blankOut (offset : Nat) : List Span → List Char → List Char
  | _, [] => []
  | [], s => s
  | span :: spans, c :: s =>
    let next := offset + c.utf8Size
    if offset < span.start then c :: blankOut next (span :: spans) s
    else
      List.replicate c.utf8Size ' '
        ++ blankOut next (if next < span.stop then span :: spans else spans) s

end SqlGateway.Sql
