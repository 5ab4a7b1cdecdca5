import TestDouble.Number.Numeral

/-!
# Quoted texts of TOML

A text stands in double or in single quotes, and in one or in three of them on each side. Escapes
begin with a backslash and have a meaning in double quotes only. A text in three quotes may go over
several lines; a line break right after its opening quotes does not belong to it, and a backslash
at the end of a line takes away the break and all blanks and breaks after it.
-/

namespace TestDouble.Toml

/-- Whether a character is a blank within a line. -/
def isSpace (c : Char) : Bool := c = ' ' || c = '\t'

/-- Whether a character may stand in a line: every character but the controls, and the tab. -/
def isPlain (c : Char) : Bool := c = '\t' || 0x20 ≤ c.toNat && c.toNat != 0x7F

/-- The characters after a line break at the beginning. -/
def newline? : List Char → Option (List Char)
  | '\n' :: rest => some rest
  | '\r' :: '\n' :: rest => some rest
  | _ => none

/-- The characters that single letters stand for after a backslash. -/
def simpleEscape : Char → Option Char
  | 'b' => some (Char.ofNat 0x08)
  | 't' => some '\t'
  | 'n' => some '\n'
  | 'f' => some (Char.ofNat 0x0C)
  | 'r' => some '\r'
  | '"' => some '"'
  | '\\' => some '\\'
  | _ => none

/-- How many hexadecimal digits follow a letter that announces a code point. -/
def codedEscape : Char → Option Nat
  | 'u' => some 4
  | 'U' => some 8
  | _ => none

/-- The character that an escape stands for, whose backslash has been read, and the rest. -/
def escape? : List Char → Option (Char × List Char)
  | [] => none
  | c :: rest =>
    match simpleEscape c, codedEscape c with
    | some d, _ => some (d, rest)
    | none, some digits => Numeral.codePoint? digits rest
    | none, none => none

/-- The characters after blanks and line breaks. -/
def skipLines : List Char → List Char
  | '\r' :: '\n' :: rest => skipLines rest
  | c :: rest => if isSpace c || c = '\n' then skipLines rest else c :: rest
  | [] => []

/-- What follows a backslash at the end of a line. -/
def afterLineEnd? (cs : List Char) : Option (List Char) :=
  (newline? (cs.dropWhile isSpace)).map skipLines

/-- Puts a character before what a reader has read. -/
def before (c : Char) (read : Option (List Char × List Char)) : Option (List Char × List Char) :=
  read.map fun (cs, rest) => (c :: cs, rest)

/-- A text in a pair of single quotes whose opening one has been read, and the rest. -/
def literal? : List Char → Option (List Char × List Char)
  | [] => none
  | '\'' :: rest => some ([], rest)
  | c :: rest => if isPlain c then before c (literal? rest) else none

/-- A text in a pair of double quotes whose opening one has been read, and the rest; `fuel` bounds
the number of its characters. -/
def basic? : (fuel : Nat) → List Char → Option (List Char × List Char)
  | 0, _ => none
  | fuel + 1, cs =>
    match cs with
    | [] => none
    | '"' :: rest => some ([], rest)
    | '\\' :: rest => (escape? rest).bind fun (c, rest) => before c (basic? fuel rest)
    | c :: rest => if isPlain c then before c (basic? fuel rest) else none

/-- The quotes at the beginning that end a text in three of them, if there are three: those beyond
three, two at most, belong to the text. -/
def closing? (quote : Char) (cs : List Char) : Option (List Char × List Char) :=
  let n := (cs.takeWhile (· = quote)).length
  if n < 3 then none else some (List.replicate (min n 5 - 3) quote, cs.drop (min n 5))

/-- A text in three quotes on each side, the opening ones and a line break after them having been
read, and the rest. -/
def several? (quote : Char) : (fuel : Nat) → List Char → Option (List Char × List Char)
  | 0, _ => none
  | fuel + 1, cs =>
    match closing? quote cs, cs with
    | some (last, rest), _ => some (last, rest)
    | none, [] => none
    | none, '\n' :: rest | none, '\r' :: '\n' :: rest => before '\n' (several? quote fuel rest)
    | none, '\\' :: rest =>
      if quote = '\'' then before '\\' (several? quote fuel rest)
      else
        match afterLineEnd? rest with
        | some rest => several? quote fuel rest
        | none => (escape? rest).bind fun (c, rest) => before c (several? quote fuel rest)
    | none, c :: rest => if isPlain c then before c (several? quote fuel rest) else none

/-- A quoted text at the beginning, and the rest. -/
def quotation? (cs : List Char) : Option (String × List Char) :=
  let text := Option.map fun ((cs, rest) : List Char × List Char) => (String.ofList cs, rest)
  let several := fun quote (rest : List Char) =>
    text (several? quote (rest.length + 1) ((newline? rest).getD rest))
  match cs with
  | '"' :: '"' :: '"' :: rest => several '"' rest
  | '\'' :: '\'' :: '\'' :: rest => several '\'' rest
  | '"' :: rest => text (basic? (rest.length + 1) rest)
  | '\'' :: rest => text (literal? rest)
  | _ => none

/-- A name in one pair of quotes at the beginning, and the rest. -/
def quotedName? (cs : List Char) : Option (String × List Char) :=
  match cs with
  | '"' :: '"' :: rest => some ("", rest)
  | '\'' :: '\'' :: rest => some ("", rest)
  | cs => quotation? cs

end TestDouble.Toml
