/-
# `Hyperslab.Toml.DateTime` — dates and times

A date, a time of day, or both with perhaps an offset.  The fields are checked
against the calendar, and the value is the normalized text: a capital `T` between
date and time, at most nine digits of a second, and none at the end that are zero.
-/
import Hyperslab.Toml.Scan
import Hyperslab.Decimal.Numeral

namespace Hyperslab.Toml

/-- Exactly `width` decimal digits and their value. -/
def fixedDigits? (width : Nat) (cs : List Char) : Option (Nat × List Char) :=
  let ds := cs.take width
  if ds.length = width ∧ ds.all Char.isDigit then some (decimalValue ds, cs.drop width)
  else none

/-- A number of exactly two digits within bounds. -/
def twoDigits? (low high : Nat) (cs : List Char) : Option (Nat × List Char) := do
  let (n, rest) ← fixedDigits? 2 cs
  if low ≤ n ∧ n ≤ high then some (n, rest) else none

/-- One particular character. -/
def skipChar? (c : Char) : List Char → Option (List Char)
  | [] => none
  | d :: rest => if d = c then some rest else none

/-- A natural number with leading zeros up to a width. -/
def padded (width n : Nat) : String :=
  let ds := Nat.toDigits 10 n
  String.ofList (List.replicate (width - ds.length) '0' ++ ds)

/-- The number of days of a month. -/
def daysInMonth (year month : Nat) : Nat :=
  if month = 2 then
    if year % 4 = 0 ∧ (year % 100 ≠ 0 ∨ year % 400 = 0) then 29 else 28
  else if month = 4 ∨ month = 6 ∨ month = 9 ∨ month = 11 then 30
  else 31

/-- A date. -/
def date? (cs : List Char) : Option (String × List Char) := do
  let (year, rest) ← fixedDigits? 4 cs
  let rest ← skipChar? '-' rest
  let (month, rest) ← twoDigits? 1 12 rest
  let rest ← skipChar? '-' rest
  let (day, rest) ← twoDigits? 1 (daysInMonth year month) rest
  return (padded 4 year ++ "-" ++ padded 2 month ++ "-" ++ padded 2 day, rest)

/-- The digits of a second after its point: nine at most, and no zeros at the end. -/
def fractionText (ds : List Char) : String :=
  let kept := ((ds.take 9).reverse.dropWhile (· == '0')).reverse
  if kept.isEmpty then "" else "." ++ String.ofList kept

/-- A time of day. -/
def time? (cs : List Char) : Option (String × List Char) := do
  let (hour, rest) ← twoDigits? 0 23 cs
  let rest ← skipChar? ':' rest
  let (minute, rest) ← twoDigits? 0 59 rest
  let rest ← skipChar? ':' rest
  let (second, rest) ← twoDigits? 0 60 rest
  let text := padded 2 hour ++ ":" ++ padded 2 minute ++ ":" ++ padded 2 second
  match rest with
  | '.' :: more =>
    let ds := more.takeWhile Char.isDigit
    if ds.isEmpty then some (text, rest)
    else some (text ++ fractionText ds, more.drop ds.length)
  | _ => some (text, rest)

/-- An offset from universal time, if one follows. -/
def offset? : Reader String
  | [] => some ("", [])
  | c :: rest =>
    if c = 'Z' ∨ c = 'z' then some ("Z", rest)
    else if c = '+' ∨ c = '-' then do
      let (hours, rest) ← twoDigits? 0 23 rest
      let rest ← skipChar? ':' rest
      let (minutes, rest) ← twoDigits? 0 59 rest
      let sign := if c = '-' ∧ (hours ≠ 0 ∨ minutes ≠ 0) then "-" else "+"
      return (sign ++ padded 2 hours ++ ":" ++ padded 2 minutes, rest)
    else some ("", c :: rest)

/-- The text begins like a date. -/
def startsDate (cs : List Char) : Bool :=
  match fixedDigits? 4 cs with
  | some (_, '-' :: _) => true
  | _ => false

/-- The text begins like a time of day. -/
def startsTime (cs : List Char) : Bool :=
  match twoDigits? 0 23 cs with
  | some (_, ':' :: _) => true
  | _ => false

/-- A date with the time after it, if one follows. -/
def dateAndTime? (cs : List Char) : Option (String × List Char) := do
  let (date, rest) ← date? cs
  match rest with
  | c :: more =>
    if (c = 'T' ∨ c = 't' ∨ c = ' ') ∧ startsTime more then do
      let (time, rest) ← time? more
      let (offset, rest) ← offset? rest
      return (date ++ "T" ++ time ++ offset, rest)
    else return (date, rest)
  | [] => return (date, rest)

end Hyperslab.Toml
