import TestDouble.Number.Numeral

/-!
# Paths to settings

The name of a setting may be a path: it leads through tables by names, with dots between them, and
through lists by numbers in brackets, as in `level.list[2].name`. A number below zero counts from
the end of its list. A name that is no path stands for itself.
-/

namespace TestDouble

/-- One step of a path. -/
inductive PathStep where
  /-- To the entry of a table. -/
  | entry (name : String)
  /-- To the item of a list. -/
  | item (position : Int)
  deriving DecidableEq

namespace PathStep

/-- Whether a character may stand in a name that is part of a path. -/
def isNameChar (c : Char) : Bool := c.isAlphanum || c = '_' || c = '-' || c = ' '

/-- The name at the beginning, which may not be empty, and the rest. -/
def name? (cs : List Char) : Option (PathStep × List Char) :=
  match cs.takeWhile isNameChar with
  | [] => none
  | name => some (.entry (String.ofList name), cs.dropWhile isNameChar)

/-- The number in brackets whose opening one has been read, and the rest. Blanks may stand around
the number. -/
def item? (cs : List Char) : Option (PathStep × List Char) := do
  let isSpace := fun c => c = ' ' || c = '\t'
  let (negative, cs) :=
    match cs.dropWhile isSpace with
    | '-' :: rest => (true, rest)
    | rest => (false, rest)
  let n ← Numeral.natural? 10 (cs.takeWhile Char.isDigit)
  let n ← Numeral.int64? (if negative then -(n : Int) else n)
  match (cs.dropWhile Char.isDigit).dropWhile isSpace with
  | ']' :: rest => return (.item n, rest)
  | _ => none

/-- The step at the beginning, if it is not the first one of a path, and the rest. -/
def next? : List Char → Option (PathStep × List Char)
  | '.' :: rest => name? rest
  | '[' :: rest => item? rest
  | _ => none

/-- The steps after the first one of a path; `fuel` bounds their number. -/
def following? : (fuel : Nat) → List Char → Option (List PathStep)
  | _, [] => some []
  | 0, _ => none
  | fuel + 1, cs => do
    let (step, rest) ← next? cs
    return step :: (← following? fuel rest)

/-- The path that characters write, if they write one. -/
def path? (cs : List Char) : Option (List PathStep) := do
  let (first, rest) ← name? cs
  return first :: (← following? rest.length rest)

/-- The path that the name of a setting stands for. -/
def path (name : String) : List PathStep := (path? name.toList).getD [.entry name]

/-- A name that is no path stands for itself. -/
theorem path_of_none {name : String} (h : path? name.toList = none) :
    path name = [.entry name] := by
  simp [path, h]

end PathStep
end TestDouble
