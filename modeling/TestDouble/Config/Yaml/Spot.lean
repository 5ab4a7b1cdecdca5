/-!
# Characters and their places

YAML gives a meaning to where a character stands: how far from the beginning of its line, and
whether anything but blanks comes before it there. A text is read as a list of spots, each a
character with its place. A line break is one spot, whichever way it is written, and the last spot
stands for the end of the text; a null character ends a text as well.
-/

namespace TestDouble.Yaml

/-- A character with its place. -/
structure Spot where
  char : Char
  /-- How many characters stand before it. -/
  index : Nat
  line : Nat
  column : Nat
  /-- Whether nothing but blanks stands before it on its line. -/
  isFresh : Bool
  deriving Inhabited

/-- The character that stands for the end. -/
def endMark : Char := Char.ofNat 0

/-- Whether a character is a blank within a line. -/
def isBlank (c : Char) : Bool := c = ' ' || c = '\t'

/-- Whether a character is a line break. -/
def isBreak (c : Char) : Bool := c = '\n'

/-- Whether a line ends before a character. -/
def isLineEnd (c : Char) : Bool := isBreak c || c = endMark

/-- Whether a word ends before a character. -/
def isGap (c : Char) : Bool := isBlank c || isLineEnd c

/-- Whether a character is part of the notation of lists and mappings within a line. -/
def isBracket (c : Char) : Bool := ",[]\x7b\x7d".toList.contains c

/-- Whether a character may stand in the name of a directive or of a tag. -/
def isWordChar (c : Char) : Bool := c.isAlphanum || c = '_' || c = '-'

namespace Spot

/-- The spots of the characters that follow a spot with the given place. -/
def following (index line column : Nat) (isFresh : Bool) : List Char → List Spot
  | [] => [⟨endMark, index, line, column, isFresh⟩]
  | '\r' :: '\n' :: rest =>
    ⟨'\n', index, line, column, isFresh⟩ :: following (index + 2) (line + 1) 0 true rest
  | c :: rest =>
    if c = endMark then [⟨endMark, index, line, column, isFresh⟩]
    else if c = '\n' || c = '\r' then
      ⟨'\n', index, line, column, isFresh⟩ :: following (index + 1) (line + 1) 0 true rest
    else
      ⟨c, index, line, column, isFresh⟩
        :: following (index + 1) line (column + 1) (isFresh && isBlank c) rest

/-- The spots of a text. -/
def ofText (text : String) : List Spot := following 0 0 0 true text.toList

end Spot

/-- The spot that is next. -/
def here (cs : List Spot) : Spot := cs.headD default

/-- The character that is a number of spots away. -/
def charAt (n : Nat) (cs : List Spot) : Char := ((cs[n]?).map Spot.char).getD endMark

/-- The spots after those whose characters have a property. -/
def skipWhile (p : Char → Bool) (cs : List Spot) : List Spot := cs.dropWhile fun c => p c.char

/-- The characters at the beginning that have a property. -/
def takeChars (p : Char → Bool) (cs : List Spot) : List Char :=
  (cs.takeWhile fun c => p c.char).map Spot.char

/-- Whether a line begins with a character three times and nothing right after it. -/
def isTriple (c : Char) (cs : List Spot) : Bool :=
  (here cs).column = 0 && charAt 0 cs = c && charAt 1 cs = c && charAt 2 cs = c
    && isGap (charAt 3 cs)

/-- Whether a line begins with the mark of the beginning or of the end of a document. -/
def isDocumentMark (cs : List Spot) : Bool := isTriple '-' cs || isTriple '.' cs

/-- What is left after blanks and a comment, which needs a blank before it; whether there was a
space, and whether there was a tab. -/
structure Trailing where
  rest : List Spot
  hasSpace : Bool
  hasTab : Bool

/-- Passes over blanks and a comment; only spaces count as blanks if tabs do not. -/
def trailing? (tabs : Bool) (cs : List Spot) : Option Trailing :=
  let blanks := takeChars (fun c => c = ' ' || tabs && c = '\t') cs
  let rest := cs.drop blanks.length
  let found := fun rest => some ⟨rest, blanks.contains ' ', blanks.contains '\t'⟩
  if charAt 0 rest = '#' then
    if blanks.isEmpty then none else found (skipWhile (!isLineEnd ·) rest)
  else found rest

end TestDouble.Yaml
