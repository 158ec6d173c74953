import SqlGateway.Calendar.Date
import SqlGateway.Number.Digits

/-!
# Written dates and times

A date is written year, month and day with hyphens, a time hour, minute and second with colons,
and a timestamp both with a space between. A year has at least four digits, and a sign if it is
negative or has more. A leap second is written as second 60; fractions are not written.
-/

namespace SqlGateway.Calendar

open Number

def yearText (year : Int) : List Char :=
  let ds := paddedDigits 4 year.natAbs
  if year < 0 then '-' :: ds
  else if 9999 < year then '+' :: ds
  else ds

def Date.text (d : Date) : List Char :=
  yearText d.year ++ '-' :: paddedDigits 2 d.month ++ '-' :: paddedDigits 2 d.day

def Time.text (t : Time) : List Char :=
  paddedDigits 2 t.hour ++ ':' :: paddedDigits 2 t.minute
    ++ ':' :: paddedDigits 2 (t.second + t.nanosecond / 1000000000)

def Timestamp.text (ts : Timestamp) : List Char :=
  ts.date.text ++ ' ' :: ts.time.text

end SqlGateway.Calendar
