/-!
# Characters and texts

A class of characters is given as a list of ranges of character numbers, in ascending order. Labels
are compared with the letters A to Z made small; every other character stands for itself.
-/

namespace SqlGateway.Text

/-- Whether `n` lies in one of the ascending ranges `first … last`. -/
def inRanges (n : Nat) : List (Nat × Nat) → Bool
  | [] => false
  | (first, last) :: rest => first ≤ n && (n ≤ last || inRanges n rest)

def foldAscii (s : List Char) : List Char :=
  s.map Char.toLower

def sameLabel (a b : String) : Bool :=
  foldAscii a.toList == foldAscii b.toList

/-- Whether `pattern` stands somewhere in the text, its characters side by side. -/
def occurs (pattern : List Char) : List Char → Bool
  | [] => pattern.isEmpty
  | c :: s => pattern.isPrefixOf (c :: s) || occurs pattern s

def utf8Length : List Char → Nat
  | [] => 0
  | c :: s => c.utf8Size + utf8Length s

end SqlGateway.Text
