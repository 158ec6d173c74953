import SqlGateway.Json.Basic
import SqlGateway.Json.Token

/-!
# Reading JSON

A text is one value and nothing else. Nesting has no limit.
-/

namespace SqlGateway.Json

/-- What was read from the front of a list of tokens, and the rest, which is shorter. -/
abbrev Front (α : Type) (ts : List Token) :=
  { r : α × List Token // r.2.length < ts.length }

mutual

def readValue? (ts : List Token) : Option (Front Json ts) :=
  match ts with
  | .null :: ts => some ⟨(.null, ts), by simp⟩
  | .bool b :: ts => some ⟨(.bool b, ts), by simp⟩
  | .number text :: ts => some ⟨(.number text, ts), by simp⟩
  | .string codes :: ts => some ⟨(.string codes, ts), by simp⟩
  | .openArray :: .closeArray :: ts =>
    some ⟨(.array [], ts), by simp only [List.length_cons]; omega⟩
  | .openArray :: ts => do
    let ⟨(items, rest), h⟩ ← readItems? ts
    return ⟨(.array items, rest), by simp at h ⊢; omega⟩
  | .openObject :: .closeObject :: ts => some ⟨(.object [], ts), by
      simp only [List.length_cons]; omega⟩
  | .openObject :: ts => do
    let ⟨(members, rest), h⟩ ← readMembers? ts
    return ⟨(.object members, rest), by simp at h ⊢; omega⟩
  | _ => none
termination_by (ts.length, 0)

/-- The items of an array up to its closing bracket, at least one. -/
def readItems? (ts : List Token) : Option (Front (List Json) ts) := do
  let ⟨(item, rest), h⟩ ← readValue? ts
  match hr : rest with
  | .closeArray :: rest' => return ⟨([item], rest'), by simp [hr] at h ⊢; omega⟩
  | .comma :: rest' =>
    let ⟨(items, rest''), h'⟩ ← readItems? rest'
    return ⟨(item :: items, rest''), by simp [hr] at h h' ⊢; omega⟩
  | _ => none
termination_by (ts.length, 1)
decreasing_by
  · apply Prod.Lex.right
    decide
  · apply Prod.Lex.left
    simp [hr] at h
    omega

/-- The members of an object up to its closing brace, at least one. -/
def readMembers? (ts : List Token) : Option (Front (List (List Nat × Json)) ts) :=
  match ts with
  | .string name :: .colon :: ts => do
    let ⟨(value, rest), h⟩ ← readValue? ts
    match hr : rest with
    | .closeObject :: rest' => return ⟨([(name, value)], rest'), by simp [hr] at h ⊢; omega⟩
    | .comma :: rest' =>
      let ⟨(members, rest''), h'⟩ ← readMembers? rest'
      return ⟨((name, value) :: members, rest''), by simp [hr] at h h' ⊢; omega⟩
    | _ => none
  | _ => none
termination_by (ts.length, 1)
decreasing_by
  · apply Prod.Lex.left
    simp only [List.length_cons]
    omega
  · apply Prod.Lex.left
    simp [hr] at h ⊢
    omega

end

def read? (s : List Char) : Option Json := do
  let ⟨(value, rest), _⟩ ← readValue? (← tokens? s)
  if rest.isEmpty then some value else none

end SqlGateway.Json
