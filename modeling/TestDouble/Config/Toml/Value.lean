import TestDouble.Config.Toml.Moment
import TestDouble.Config.Toml.Quotation
import TestDouble.Config.Toml.Tree
import TestDouble.Config.Toml.Word

/-!
# Keys and values of TOML

A key is a name, with or without quotes, or several of them with dots between. A value is a quoted
text, a word, a moment, an array in brackets or a table in braces. Arrays may go over several lines
and have comments; tables in braces may not.

Arrays and tables are nested at most `depth` deep, and a key has at most `depth` names.
-/

namespace TestDouble.Toml

/-- How deep values may be nested, and how many names a key may have. -/
def depth : Nat := 79

/-- The characters after leading blanks. -/
def skipSpaces (cs : List Char) : List Char := cs.dropWhile isSpace

/-- Whether a character may stand in a name without quotes. -/
def isBareKey (c : Char) : Bool := c.isAlphanum || c = '_' || c = '-'

/-- A single name at the beginning, and the rest. -/
def name? (cs : List Char) : Option (String × List Char) :=
  match cs with
  | '"' :: _ | '\'' :: _ => quotedName? cs
  | cs =>
    match cs.takeWhile isBareKey with
    | [] => none
    | name => some (String.ofList name, cs.dropWhile isBareKey)

/-- The names of a key with dots between them, and the rest after blanks; `fuel` bounds the number
of names. -/
def names? : (fuel : Nat) → List Char → Option (List String × List Char)
  | 0, _ => none
  | fuel + 1, cs => do
    let (name, rest) ← name? (skipSpaces cs)
    match skipSpaces rest with
    | '.' :: rest => (names? fuel rest).map fun (names, rest) => (name :: names, rest)
    | rest => return ([name], rest)

/-- A key, and the rest after blanks. -/
def key? (cs : List Char) : Option (List String × List Char) := names? depth cs

/-- What follows a comment at the beginning, if there is one. -/
def skipComment : List Char → List Char
  | '#' :: rest => rest.dropWhile isPlain
  | rest => rest

/-- What follows blanks, comments and line breaks; every comment must end in a break. `fuel` bounds
the number of lines. -/
def skipLayout? : (fuel : Nat) → List Char → Option (List Char)
  | 0, cs => some cs
  | fuel + 1, cs =>
    match skipSpaces cs with
    | c :: rest =>
      if c = '#' || c = '\r' || c = '\n' then
        (newline? (skipComment (c :: rest))).bind fun rest => skipLayout? fuel rest
      else some (c :: rest)
    | [] => some []

/-- Whether a character may stand in a word or a moment. -/
def isWordChar (c : Char) : Bool := c.isAlphanum || "_+-.:".toList.contains c

/-- A word or a moment at the beginning, and the rest. -/
def bare? (cs : List Char) : Option (Content × List Char) :=
  match moment? cs with
  | some (shown, rest) => some (.text (String.ofList shown), rest)
  | none =>
    (word? (cs.takeWhile isWordChar)).map fun v => (.scalar v, cs.dropWhile isWordChar)

mutual

/-- A value at the beginning, and the rest. `levels` is how many arrays and tables may be open. -/
def value? : (fuel levels : Nat) → List Char → Option (Content × List Char)
  | 0, _, _ => none
  | fuel + 1, levels, cs =>
    match cs, levels with
    | '"' :: _, _ | '\'' :: _, _ => (quotation? cs).map fun (s, rest) => (.text s, rest)
    | '[' :: rest, levels + 1 =>
      (items? fuel levels rest).map fun (vs, rest) => (.list vs, rest)
    | '\x7b' :: rest, levels + 1 => do
      let (entries, rest) ← entries? fuel levels rest
      let table ← Tree.ofEntries? entries
      return (.table (Tree.contents table), rest)
    | cs, _ => bare? cs

/-- The items of an array up to its closing bracket; a comma may follow the last one. -/
def items? : (fuel levels : Nat) → List Char → Option (List Content × List Char)
  | 0, _, _ => none
  | fuel + 1, levels, cs => do
    match ← skipLayout? (cs.length + 1) cs with
    | ']' :: rest => return ([], rest)
    | cs =>
      let (v, rest) ← value? fuel levels cs
      match ← skipLayout? (rest.length + 1) rest with
      | ',' :: rest =>
        let (vs, rest) ← items? fuel levels rest
        return (v :: vs, rest)
      | ']' :: rest => return ([v], rest)
      | _ => none

/-- The entries of a table up to its closing brace. -/
def entries? : (fuel levels : Nat) → List Char →
    Option (List (List String × Content) × List Char)
  | 0, _, _ => none
  | fuel + 1, levels, cs =>
    match skipSpaces cs with
    | '\x7d' :: rest => some ([], rest)
    | cs => someEntries? fuel levels cs

/-- The entries of a table, at least one, up to its closing brace. -/
def someEntries? : (fuel levels : Nat) → List Char →
    Option (List (List String × Content) × List Char)
  | 0, _, _ => none
  | fuel + 1, levels, cs => do
    let (key, rest) ← key? cs
    let (v, rest) ← value? fuel levels (skipSpaces (← expect? '=' rest))
    match skipSpaces rest with
    | ',' :: rest =>
      let (entries, rest) ← someEntries? fuel levels rest
      return ((key, v) :: entries, rest)
    | '\x7d' :: rest => return ([(key, v)], rest)
    | _ => none

end

end TestDouble.Toml
