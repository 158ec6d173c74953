/-!
# JSON values

Numbers are kept as they are written, members of an object in their order. A string is a list of
codes: the numbers of its characters, and single surrogates where escapes name them.
-/

namespace SqlGateway

inductive Json where
  | null
  | bool (b : Bool)
  | number (text : List Char)
  | string (codes : List Nat)
  | array (items : List Json)
  | object (members : List (List Nat × Json))

namespace Json

def isHighSurrogate (n : Nat) : Bool := 0xD800 ≤ n && n < 0xDC00

def isLowSurrogate (n : Nat) : Bool := 0xDC00 ≤ n && n < 0xE000

/-- The characters of a string. A surrogate counts only as part of a pair. -/
def characters? : List Nat → Option (List Char)
  | [] => some []
  | high :: low :: codes =>
    if isHighSurrogate high then
      if isLowSurrogate low then
        (characters? codes).map
          (Char.ofNat (0x10000 + (high - 0xD800) * 0x400 + (low - 0xDC00)) :: ·)
      else none
    else if isLowSurrogate high then none
    else (characters? (low :: codes)).map (Char.ofNat high :: ·)
  | [code] => if isHighSurrogate code || isLowSurrogate code then none else some [Char.ofNat code]

def text? (codes : List Nat) : Option String :=
  (characters? codes).map .ofList

end Json

end SqlGateway
