import SqlGateway.Text.Word

/-!
# Named placeholders

A placeholder is a colon and the longest run of word characters after it. A text falls into its
placeholders, from left to right, and the characters between them. A bare colon is a placeholder
with an empty name.
-/

namespace SqlGateway.Sql

open Text

/-- A placeholder, given by the word after its colon, or a character outside all placeholders. -/
inductive Piece where
  | plain (c : Char)
  | placeholder (word : List Char)
  deriving DecidableEq, Repr

def Piece.text : Piece → List Char
  | .plain c => [c]
  | .placeholder word => ':' :: word

def pieces (s : List Char) : List Piece :=
  match s with
  | [] => []
  | c :: s =>
    if c = ':' then .placeholder (s.takeWhile isWord) :: pieces (s.dropWhile isWord)
    else .plain c :: pieces s
termination_by s.length
decreasing_by
  · have := (List.dropWhile_sublist isWord (l := s)).length_le
    simp only [List.length_cons]
    omega
  · simp

theorem flatMap_text_pieces (s : List Char) : (pieces s).flatMap Piece.text = s := by
  fun_induction pieces s with
  | case1 => rfl
  | case2 s ih => simp [ih, Piece.text, List.takeWhile_append_dropWhile]
  | case3 c s hc ih => simp [ih, Piece.text]

def namedPlaceholders (sql : String) : List String :=
  (pieces sql.toList).filterMap fun
    | .placeholder (c :: word) => some (.ofList (':' :: c :: word))
    | _ => none

def hasNamedPlaceholders (sql : String) : Bool :=
  !(namedPlaceholders sql).isEmpty

end SqlGateway.Sql
