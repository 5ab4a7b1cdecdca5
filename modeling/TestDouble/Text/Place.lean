import TestDouble.Text.Search

/-!
# Places at the end of a text

A message may end in a place, such as ` at line 3 column 14`. `splitPlace?` tells the two apart,
and `plainPlace` writes the place anew, without needless zeros; a place in line zero is no place
and is left out.
-/

namespace TestDouble.Text

/-- The number that digits write, if there are any and it fits into sixty-four bits. -/
def natOf? (digits : List Char) : Option Nat :=
  let n := digits.foldl (fun n c => 10 * n + (c.toNat - '0'.toNat)) 0
  if digits.isEmpty || 0xFFFFFFFFFFFFFFFF < n then none else some n

/-- Takes a word off the end of characters that stand in reverse order. -/
def dropWord? (word : String) (reversed : List Char) : Option (List Char) :=
  let last := word.toList.reverse
  if last.isPrefixOf reversed then some (reversed.drop last.length) else none

/-- Takes a number off the end of characters that stand in reverse order. -/
def takeNumber? (reversed : List Char) : Option (Nat × List Char) :=
  (natOf? (reversed.takeWhile Char.isDigit).reverse).map fun n =>
    (n, reversed.dropWhile Char.isDigit)

/-- A text without the place at its end, and the line and the column of that place. -/
def splitPlace? (text : String) : Option (String × Nat × Nat) := do
  let (column, rest) ← takeNumber? text.toList.reverse
  let (line, rest) ← takeNumber? (← dropWord? " column " rest)
  return (String.ofList (← dropWord? " at line " rest).reverse, line, column)

/-- A text with the place at its end in its plain form. -/
def plainPlace (text : String) : String :=
  match splitPlace? text with
  | none => text
  | some (text, 0, _) => text
  | some (text, line, column) =>
    text ++ " at line " ++ toString line ++ " column " ++ toString column

end TestDouble.Text
