/-!
# Dates and times

Dates of the proleptic Gregorian calendar, with a year zero, and times of day down to the
nanosecond. A leap second is second 59 with a nanosecond of 10⁹ or more.
-/

namespace SqlGateway.Calendar

def isLeapYear (year : Int) : Bool :=
  year % 4 == 0 && (year % 100 != 0 || year % 400 == 0)

def daysInMonth (year : Int) (month : Nat) : Nat :=
  if month = 2 then (if isLeapYear year then 29 else 28)
  else if month = 4 || month = 6 || month = 9 || month = 11 then 30
  else 31

/-- The years that dates are kept for. -/
def minYear : Int := -262143
def maxYear : Int := 262142

def IsDate (year : Int) (month day : Nat) : Prop :=
  minYear ≤ year ∧ year ≤ maxYear ∧ 1 ≤ month ∧ month ≤ 12 ∧ 1 ≤ day ∧ day ≤ daysInMonth year month

instance (year : Int) (month day : Nat) : Decidable (IsDate year month day) :=
  inferInstanceAs (Decidable (_ ∧ _))

structure Date where
  year : Int
  month : Nat
  day : Nat
  valid : IsDate year month day
  deriving DecidableEq

def Date.ofParts? (year : Int) (month day : Nat) : Option Date :=
  if h : IsDate year month day then some ⟨year, month, day, h⟩ else none

def IsTime (hour minute second nanosecond : Nat) : Prop :=
  hour < 24 ∧ minute < 60 ∧ second < 60 ∧ nanosecond < 2000000000 ∧
    (1000000000 ≤ nanosecond → second = 59)

instance (hour minute second nanosecond : Nat) : Decidable (IsTime hour minute second nanosecond) :=
  inferInstanceAs (Decidable (_ ∧ _))

structure Time where
  hour : Nat
  minute : Nat
  second : Nat
  nanosecond : Nat
  valid : IsTime hour minute second nanosecond
  deriving DecidableEq

def Time.ofParts? (hour minute second nanosecond : Nat) : Option Time :=
  if h : IsTime hour minute second nanosecond then some ⟨hour, minute, second, nanosecond, h⟩
  else none

def Time.midnight : Time :=
  ⟨0, 0, 0, 0, by decide⟩

structure Timestamp where
  date : Date
  time : Time
  deriving DecidableEq

end SqlGateway.Calendar
