import SqlGateway.Calendar.Date
import SqlGateway.Number.Digits
import SqlGateway.Text.Blank

/-!
# Reading dates and times

White space may stand before each number. A year without a sign has at most four digits, one with
a sign any number of them; every other number has one or two. Between the date and the time of a
timestamp there may be any white space or none. Nothing may follow.
-/

namespace SqlGateway.Calendar

open Number Text

/-- At least one and at most `width` digits, as many as there are. -/
def readDigits? (width : Nat) (s : List Char) : Option (Nat × List Char) :=
  let ds := (s.take width).takeWhile Char.isDigit
  if ds.isEmpty then none else some (digitsValue ds, s.drop ds.length)

def readPart? (s : List Char) : Option (Nat × List Char) :=
  readDigits? 2 (trimStart s)

def readYear? (s : List Char) : Option (Int × List Char) :=
  match trimStart s with
  | '-' :: r => (readDigits? r.length r).map fun (n, rest) => (-(n : Int), rest)
  | '+' :: r => (readDigits? r.length r).map fun (n, rest) => ((n : Int), rest)
  | r => (readDigits? 4 r).map fun (n, rest) => ((n : Int), rest)

def expect? (c : Char) : List Char → Option (List Char)
  | d :: s => if c = d then some s else none
  | [] => none

def readDate? (s : List Char) : Option (Date × List Char) := do
  let (year, s) ← readYear? s
  let s ← expect? '-' s
  let (month, s) ← readPart? s
  let s ← expect? '-' s
  let (day, s) ← readPart? s
  return (← Date.ofParts? year month day, s)

/-- A time of day, and what is left. Second 60 is a leap second. -/
def readTime? (s : List Char) : Option (Time × List Char) := do
  let (hour, s) ← readPart? s
  let s ← expect? ':' s
  let (minute, s) ← readPart? s
  let s ← expect? ':' s
  let (second, s) ← readPart? s
  let time ← if second = 60 then Time.ofParts? hour minute 59 1000000000
    else Time.ofParts? hour minute second 0
  return (time, s)

def complete? {α : Type} : α × List Char → Option α
  | (a, []) => some a
  | _ => none

def Date.read? (s : List Char) : Option Date :=
  (readDate? s).bind complete?

def Time.read? (s : List Char) : Option Time :=
  (readTime? s).bind complete?

def Timestamp.read? (s : List Char) : Option Timestamp := do
  let (date, s) ← readDate? s
  let (time, s) ← readTime? (trimStart s)
  complete? (⟨date, time⟩, s)

end SqlGateway.Calendar
