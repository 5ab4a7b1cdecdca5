import TestDouble.Json.Parser

/-!
# Dates and times of TOML

A moment is a date, a time of day, or both with or without the distance from universal time. The
library only shows moments, so the parts of one are kept as they are shown: the letters between
them are capital, a fraction of a second has at most nine digits and no needless zeros, and no
distance from universal time is shown as one that is not below zero.
-/

namespace TestDouble.Toml

/-- The number that a count of digits at the beginning writes, and the rest. -/
def fixed? (count : Nat) (cs : List Char) : Option (Nat × List Char) :=
  let digits := cs.take count
  if digits.length = count && digits.all Char.isDigit then
    some (Json.Parser.natOfDigits digits, cs.drop count)
  else none

/-- A number in a count of digits that lies between two bounds, and the rest. -/
def bounded? (count low high : Nat) (cs : List Char) : Option (Nat × List Char) := do
  let (n, rest) ← fixed? count cs
  if low ≤ n ∧ n ≤ high then return (n, rest) else none

/-- Whether a year has a leap day. -/
def isLeap (year : Nat) : Bool := year % 4 = 0 && (year % 100 != 0 || year % 400 = 0)

/-- How many days a month of a year has. -/
def daysOf (year month : Nat) : Nat :=
  if month = 2 then if isLeap year then 29 else 28
  else if [4, 6, 9, 11].contains month then 30
  else 31

/-- A character at the beginning, and the rest. -/
def expect? (c : Char) : List Char → Option (List Char)
  | d :: rest => if d = c then some rest else none
  | [] => none

/-- The characters of a text that a reader has passed, given what it has left. -/
def passed (cs rest : List Char) : List Char := cs.take (cs.length - rest.length)

/-- A date, and the rest. -/
def date? (cs : List Char) : Option (List Char × List Char) := do
  let (year, rest) ← fixed? 4 cs
  let (month, rest) ← bounded? 2 1 12 (← expect? '-' rest)
  let (_, rest) ← bounded? 2 1 (daysOf year month) (← expect? '-' rest)
  return (passed cs rest, rest)

/-- Digits without zeros at the end. -/
def withoutLastZeros (digits : List Char) : List Char :=
  (digits.reverse.dropWhile (· = '0')).reverse

/-- The fraction of a second as it is shown, and the rest. -/
def secondFraction? : List Char → Option (List Char × List Char)
  | '.' :: rest =>
    let digits := rest.takeWhile Char.isDigit
    let shown := withoutLastZeros (digits.take 9)
    if digits.isEmpty then none
    else some (if shown.isEmpty then [] else '.' :: shown, rest.dropWhile Char.isDigit)
  | rest => some ([], rest)

/-- A time of day as it is shown, and the rest. -/
def time? (cs : List Char) : Option (List Char × List Char) := do
  let (_, rest) ← bounded? 2 0 23 cs
  let (_, rest) ← bounded? 2 0 59 (← expect? ':' rest)
  let (_, rest) ← bounded? 2 0 60 (← expect? ':' rest)
  let (fraction, after) ← secondFraction? rest
  return (passed cs rest ++ fraction, after)

/-- The distance from universal time as it is shown, if there is one, and the rest. -/
def offset? : List Char → Option (List Char × List Char)
  | c :: rest =>
    if c = 'Z' || c = 'z' then some (['Z'], rest)
    else if c = '+' || c = '-' then do
      let (hours, after) ← bounded? 2 0 23 rest
      let (minutes, after) ← bounded? 2 0 59 (← expect? ':' after)
      return ((if hours + minutes = 0 then '+' else c) :: passed rest after, after)
    else some ([], c :: rest)
  | [] => some ([], [])

/-- A time of day with or without the distance from universal time, and the rest. -/
def timeOffset? (cs : List Char) : Option (List Char × List Char) := do
  let (time, rest) ← time? cs
  let (offset, rest) ← offset? rest
  return (time ++ offset, rest)

/-- A moment as it is shown, and the rest. A date and a time have a `T` between them, or a single
blank. -/
def moment? (cs : List Char) : Option (List Char × List Char) :=
  match date? cs with
  | none => time? cs
  | some (date, c :: rest) =>
    let both := (timeOffset? rest).map fun (time, rest) => (date ++ 'T' :: time, rest)
    if c = 'T' || c = 't' then both
    else if c = ' ' then both.or (some (date, c :: rest))
    else some (date, c :: rest)
  | some (date, []) => some (date, [])

end TestDouble.Toml
