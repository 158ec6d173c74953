/-!
# JSON tokens

A text falls into punctuation, words, numbers and strings, with white space between them that is
one of space, tab, line feed and carriage return. A run of the characters that numbers are made of
is one token, and so is a run of letters.
-/

namespace SqlGateway.Json

inductive Token where
  | openArray
  | closeArray
  | openObject
  | closeObject
  | comma
  | colon
  | null
  | bool (b : Bool)
  | number (text : List Char)
  | string (codes : List Nat)
  deriving DecidableEq, Repr

/-! ## Numbers and words -/

def isExponent : List Char → Bool
  | [] => true
  | e :: s =>
    let ds := match s with
      | '+' :: ds | '-' :: ds => ds
      | ds => ds
    (e == 'e' || e == 'E') && !ds.isEmpty && ds.all Char.isDigit

def isFraction : List Char → Bool
  | '.' :: s => !(s.takeWhile Char.isDigit).isEmpty && isExponent (s.dropWhile Char.isDigit)
  | s => isExponent s

/-- Whether a text is a number. Zero alone may start with a zero. -/
def isNumber (s : List Char) : Bool :=
  let s := match s with
    | '-' :: r => r
    | _ => s
  let whole := s.takeWhile Char.isDigit
  (whole == ['0'] || !whole.isEmpty && whole.head? != some '0')
    && isFraction (s.dropWhile Char.isDigit)

def isNumberChar (c : Char) : Bool :=
  c.isDigit || c == '-' || c == '+' || c == '.' || c == 'e' || c == 'E'

def number? (s : List Char) : Option Token :=
  if isNumber s then some (.number s) else none

def word? (s : List Char) : Option Token :=
  if s = "null".toList then some .null
  else if s = "true".toList then some (.bool true)
  else if s = "false".toList then some (.bool false)
  else none

/-! ## Strings -/

def hexValue? (c : Char) : Option Nat :=
  if c.isDigit then some (c.toNat - '0'.toNat)
  else if 'a' ≤ c && c ≤ 'f' then some (c.toNat - 'a'.toNat + 10)
  else if 'A' ≤ c && c ≤ 'F' then some (c.toNat - 'A'.toNat + 10)
  else none

def hexCode? (a b c d : Char) : Option Nat := do
  return ((← hexValue? a) * 0x1000 + (← hexValue? b) * 0x100
    + (← hexValue? c) * 0x10 + (← hexValue? d))

def escape? : Char → Option Nat
  | '"' => some 0x22
  | '\\' => some 0x5C
  | '/' => some 0x2F
  | 'b' => some 0x08
  | 'f' => some 0x0C
  | 'n' => some 0x0A
  | 'r' => some 0x0D
  | 't' => some 0x09
  | _ => none

/-- The codes up to the closing quote, and what is left after it. -/
def string? : List Char → Option (List Nat × List Char)
  | '"' :: s => some ([], s)
  | '\\' :: 'u' :: a :: b :: c :: d :: s => do
    let code ← hexCode? a b c d
    let (codes, rest) ← string? s
    return (code :: codes, rest)
  | '\\' :: e :: s => do
    let code ← escape? e
    let (codes, rest) ← string? s
    return (code :: codes, rest)
  | c :: s =>
    if c.toNat < 0x20 || c == '\\' then none
    else do
      let (codes, rest) ← string? s
      return (c.toNat :: codes, rest)
  | [] => none

theorem length_rest_of_string? {s : List Char} {codes rest} :
    string? s = some (codes, rest) → rest.length < s.length := by
  fun_induction string? s generalizing codes rest with
  | case1 s => simp +contextual
  | case2 a b c d s ih =>
    simp only [Option.bind_eq_bind, Option.bind_eq_some_iff]
    rintro ⟨_, _, ⟨_, _⟩, h, heq⟩
    have := ih h
    cases heq
    simp only [List.length_cons]
    omega
  | case3 e s _ ih =>
    simp only [Option.bind_eq_bind, Option.bind_eq_some_iff]
    rintro ⟨_, _, ⟨_, _⟩, h, heq⟩
    have := ih h
    cases heq
    simp only [List.length_cons]
    omega
  | case4 => simp
  | case5 c s _ _ _ _ ih =>
    simp only [Option.bind_eq_bind, Option.bind_eq_some_iff]
    rintro ⟨⟨_, _⟩, h, heq⟩
    have := ih h
    cases heq
    simp only [List.length_cons]
    omega
  | case6 => simp

/-! ## All tokens -/

def punctuation? : Char → Option Token
  | '[' => some .openArray
  | ']' => some .closeArray
  | '{' => some .openObject
  | '}' => some .closeObject
  | ',' => some .comma
  | ':' => some .colon
  | _ => none

def isSpace (c : Char) : Bool :=
  c == ' ' || c == '\t' || c == '\n' || c == '\r'

def tokens? (s : List Char) : Option (List Token) :=
  match s with
  | [] => some []
  | c :: s =>
    if isSpace c then tokens? s
    else if c = '"' then
      match _h : string? s with
      | some (codes, rest) => (tokens? rest).map (.string codes :: ·)
      | none => none
    else if isNumberChar c && !c.isAlpha then do
      let token ← number? (c :: s.takeWhile isNumberChar)
      let rest ← tokens? (s.dropWhile isNumberChar)
      return token :: rest
    else if c.isAlpha then do
      let token ← word? (c :: s.takeWhile Char.isAlpha)
      let rest ← tokens? (s.dropWhile Char.isAlpha)
      return token :: rest
    else do
      let token ← punctuation? c
      let rest ← tokens? s
      return token :: rest
termination_by s.length
decreasing_by
  · simp
  · have := length_rest_of_string? ‹_›
    simp only [List.length_cons]
    omega
  · have := (List.dropWhile_sublist isNumberChar (l := s)).length_le
    simp only [List.length_cons]
    omega
  · have := (List.dropWhile_sublist Char.isAlpha (l := s)).length_le
    simp only [List.length_cons]
    omega
  · simp

end SqlGateway.Json
