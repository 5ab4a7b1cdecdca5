import TestDouble.Config.Toml.Value

/-!
# TOML files

A file is a sequence of lines. A line is empty, a header in brackets, or a key and a value with an
equals sign between them; a comment may stand at its end. The keys under a header belong to the
table of the header. No key may occur twice.
-/

namespace TestDouble.Toml

/-- One line of a file that is not empty. -/
inductive Line where
  | entry (key : List String) (v : Content)
  /-- The header of a table. -/
  | header (key : List String)
  /-- The header of the next one of several tables. -/
  | next (key : List String)

/-- What follows the end of a line, before which there may be blanks and a comment. -/
def lineEnd? (cs : List Char) : Option (List Char) :=
  match skipComment (skipSpaces cs) with
  | [] => some []
  | rest => newline? rest

/-- A line that is not empty, without its end, and the rest. -/
def line? (cs : List Char) : Option (Line × List Char) :=
  match cs with
  | '[' :: '[' :: rest => do
    let (key, rest) ← key? rest
    return (.next key, ← expect? ']' (← expect? ']' rest))
  | '[' :: rest => do
    let (key, rest) ← key? rest
    return (.header key, ← expect? ']' rest)
  | cs => do
    let (key, rest) ← key? cs
    let (v, rest) ← value? (2 * rest.length + 2) depth (skipSpaces (← expect? '=' rest))
    return (.entry key v, rest)

/-- The lines of a file that are not empty; `fuel` bounds the number of lines. -/
def lines? : (fuel : Nat) → List Char → Option (List Line)
  | 0, _ => none
  | fuel + 1, cs =>
    match skipSpaces cs with
    | [] => some []
    | c :: rest =>
      if c = '#' || c = '\r' || c = '\n' then (lineEnd? (c :: rest)).bind (lines? fuel)
      else do
        let (line, rest) ← line? (c :: rest)
        return line :: (← lines? fuel (← lineEnd? rest))

/-- The table that lines make: what they have made so far, and the header they stand under. -/
def gather? : (header : List String) → List (String × Tree) → List Line →
    Option (List (String × Tree))
  | _, made, [] => some made
  | header, made, .entry key v :: rest => do
    gather? header (← Tree.insertUnder? header key v made) rest
  | _, made, .header key :: rest => do gather? key (← Tree.open? key made) rest
  | _, made, .next key :: rest => do gather? key (← Tree.openNext? key made) rest

/-- Reads a file, which may begin with a byte order mark. -/
def parse? (text : String) : Option (List (String × Content)) := do
  let chars := match text.toList with
    | '\uFEFF' :: rest => rest
    | chars => chars
  return Tree.contents (← gather? [] [] (← lines? (chars.length + 1) chars))

end TestDouble.Toml
