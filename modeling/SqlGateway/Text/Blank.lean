import SqlGateway.Text.Basic

/-!
# White space

White space is Unicode's White_Space property: 25 characters, the no-break spaces and the
ideographic space among them, the zero-width space not.
-/

namespace SqlGateway.Text

/-- The white-space characters. -/
def blankRanges : List (Nat × Nat) := [
  (0x9, 0xD), (0x20, 0x20), (0x85, 0x85), (0xA0, 0xA0), (0x1680, 0x1680), (0x2000, 0x200A),
  (0x2028, 0x2029), (0x202F, 0x202F), (0x205F, 0x205F), (0x3000, 0x3000)]

def isBlank (c : Char) : Bool :=
  inRanges c.toNat blankRanges

/-! ## Trimming -/

def trimStart (s : List Char) : List Char :=
  s.dropWhile isBlank

def trimEnd (s : List Char) : List Char :=
  (s.reverse.dropWhile isBlank).reverse

def trim (s : List Char) : List Char :=
  trimEnd (trimStart s)

def trimmed (s : String) : String :=
  .ofList (trim s.toList)

def blank (s : List Char) : Bool :=
  s.all isBlank

end SqlGateway.Text
