import TestDouble.Config.Yaml.Token
import TestDouble.Number.Numeral

/-!
# Scalars of YAML

The texts between the marks: plain ones, quoted ones, and blocks of indented lines. In all but the
blocks of the literal kind lines are folded: one line break stands for a blank, and of several the
first one is left out.

Each reader takes the spots that are left and gives back those it did not need. `indent` is the
column that the surrounding list or mapping begins in.
-/

namespace TestDouble.Yaml

/-- The text that a number of line breaks stands for where lines are folded. -/
def folded : (breaks : Nat) → List Char
  | 0 => []
  | 1 => [' ']
  | breaks + 2 => List.replicate (breaks + 1) '\n'

/-! ### Plain scalars -/

/-- Whether a plain scalar goes on with the next character. -/
def isPlainHere (inFlow : Bool) (cs : List Spot) : Bool :=
  let c := charAt 0 cs
  let next := charAt 1 cs
  if isGap c then false
  else if c = ':' then !(isGap next || inFlow && isBracket next)
  else !(inFlow && isBracket c)

/-- The characters that a plain scalar has up to the next blank or its end, and the rest. -/
def plainRun (inFlow : Bool) : List Spot → List Char × List Spot
  | [] => ([], [])
  | c :: rest =>
    if isPlainHere inFlow (c :: rest) then
      let (run, rest) := plainRun inFlow rest
      (c.char :: run, rest)
    else ([], c :: rest)

/-- Whether nothing but blanks and a comment is left of a line. -/
def isBareLine (cs : List Spot) : Bool :=
  let c := charAt 0 (skipWhile isBlank cs)
  isLineEnd c || c = '#'

/-- The gap between two words of a plain scalar: what it stands for, and the rest. A tab left of
the indentation may stand on a line that has nothing but a comment; `bare` says that the line is
one. -/
def plainGap? (indent : Int) : (bare : Bool) → (blanks : List Char) → (breaks : Nat) →
    List Spot → Option (List Char × List Spot)
  | _, _, _, [] => none
  | bare, blanks, breaks, c :: rest =>
    if isBreak c.char then plainGap? indent false blanks (breaks + 1) rest
    else if bare && c.char != endMark then plainGap? indent true blanks breaks rest
    else if isBlank c.char then
      if breaks = 0 then plainGap? indent false (c.char :: blanks) 0 rest
      else if c.char = '\t' && (c.column : Int) < indent then
        if isBareLine rest then plainGap? indent true blanks breaks rest else none
      else plainGap? indent false blanks breaks rest
    else some (if breaks = 0 then blanks.reverse else folded breaks, c :: rest)

/-- The words of a plain scalar that follow a gap, with the gap, and the rest; `fuel` bounds the
number of words. -/
def plainWords? (inFlow : Bool) (indent : Int) : (fuel : Nat) → (gap : List Char) → List Spot →
    Option (List Char × List Spot)
  | 0, _, _ => none
  | fuel + 1, gap, cs =>
    if isDocumentMark cs || charAt 0 cs = '#' then some ([], cs)
    else if inFlow && charAt 0 cs = '-' && isBracket (charAt 1 cs) then none
    else do
      let (run, rest) := plainRun inFlow cs
      let text := if run.isEmpty then [] else gap ++ run
      if isBlank (charAt 0 rest) || isBreak (charAt 0 rest) then
        let (gap, rest) ← plainGap? indent false [] 0 rest
        if !inFlow && ((here rest).column : Int) < indent then return (text, rest)
        else
          let (more, rest) ← plainWords? inFlow indent fuel gap rest
          return (text ++ more, rest)
      else return (text, rest)

/-- A plain scalar, and the rest. -/
def plain? (inFlow : Bool) (indent : Int) (cs : List Spot) : Option (String × List Spot) :=
  if inFlow && ((here cs).column : Int) < indent then none
  else (plainWords? inFlow indent (cs.length + 1) [] cs).map fun (text, rest) =>
    (String.ofList text, rest)

/-! ### Quoted scalars -/

/-- The gap between two words of a quoted scalar: what it stands for, and the rest. If `joined`,
the line break at its beginning has been read and stands for nothing. -/
def quotedGap? (indent : Int) (joined : Bool) : (blanks : List Char) → (breaks : Nat) →
    List Spot → Option (List Char × List Spot)
  | _, _, [] => none
  | blanks, breaks, c :: rest =>
    if isBreak c.char then quotedGap? indent joined blanks (breaks + 1) rest
    else if isBlank c.char then
      if breaks = 0 && !joined then quotedGap? indent joined (c.char :: blanks) 0 rest
      else if c.char = '\t' && (c.column : Int) < indent then none
      else quotedGap? indent joined blanks breaks rest
    else
      let text :=
        if joined then List.replicate breaks '\n'
        else if breaks = 0 then blanks.reverse
        else folded breaks
      some (text, c :: rest)

/-- The characters that single letters stand for after a backslash. -/
def simpleEscape : Char → Option Char
  | '0' => some (Char.ofNat 0x00)
  | 'a' => some (Char.ofNat 0x07)
  | 'b' => some (Char.ofNat 0x08)
  | 't' => some '\t'
  | '\t' => some '\t'
  | 'n' => some '\n'
  | 'v' => some (Char.ofNat 0x0B)
  | 'f' => some (Char.ofNat 0x0C)
  | 'r' => some '\r'
  | 'e' => some (Char.ofNat 0x1B)
  | ' ' => some ' '
  | '"' => some '"'
  | '/' => some '/'
  | '\\' => some '\\'
  | 'N' => some (Char.ofNat 0x85)
  | '_' => some (Char.ofNat 0xA0)
  | 'L' => some (Char.ofNat 0x2028)
  | 'P' => some (Char.ofNat 0x2029)
  | _ => none

/-- How many hexadecimal digits follow a letter that announces a code point. -/
def codedEscape : Char → Option Nat
  | 'x' => some 2
  | 'u' => some 4
  | 'U' => some 8
  | _ => none

/-- The character that an escape stands for, whose backslash has been read, and the rest. -/
def escape? (cs : List Spot) : Option (Char × List Spot) :=
  let c := charAt 0 cs
  let rest := cs.drop 1
  match simpleEscape c, codedEscape c with
  | some d, _ => some (d, rest)
  | none, some digits => do
    let (d, _) ← Numeral.codePoint? digits ((rest.take digits).map Spot.char)
    return (d, rest.drop digits)
  | none, none => none

/-- A quoted scalar whose opening quote has been read, and the rest; `fuel` bounds the number of
its characters. -/
def quoted? (single : Bool) (indent : Int) : (fuel : Nat) → List Spot →
    Option (List Char × List Spot)
  | 0, _ => none
  | fuel + 1, cs =>
    let add := fun text => Option.map fun ((more, rest) : List Char × List Spot) =>
      (text ++ more, rest)
    let c := charAt 0 cs
    let next := charAt 1 cs
    if c = endMark || ((here cs).column : Int) < indent || isDocumentMark cs then none
    else if isGap c then do
      let (gap, rest) ← quotedGap? indent false [] 0 cs
      add gap (quoted? single indent fuel rest)
    else if single && c = '\'' then
      if next = '\'' then add ['\''] (quoted? single indent fuel (cs.drop 2))
      else some ([], cs.drop 1)
    else if !single && c = '"' then some ([], cs.drop 1)
    else if !single && c = '\\' then
      if isBreak next then
        if charAt 2 cs = '"' then some ([], cs.drop 3)
        else do
          let (gap, rest) ← quotedGap? indent true [] 0 (cs.drop 2)
          add gap (quoted? single indent fuel rest)
      else do
        let (d, rest) ← escape? (cs.drop 1)
        add [d] (quoted? single indent fuel rest)
    else add [c] (quoted? single indent fuel (cs.drop 1))

/-! ### Blocks of lines -/

/-- What happens to the line breaks at the end of a block. -/
inductive Chomping where
  /-- None is kept. -/
  | strip
  /-- One is kept. -/
  | clip
  /-- All are kept. -/
  | keep
  deriving DecidableEq

namespace Chomping

/-- What a sign at the beginning of a block asks for. -/
def ofSign? : Char → Option Chomping
  | '+' => some keep
  | '-' => some strip
  | _ => none

end Chomping

/-- The digit that gives the indentation of a block, zero if there is none, and the rest; the digit
zero is refused. -/
def blockDigit? (cs : List Spot) : Option (Nat × List Spot) :=
  let c := charAt 0 cs
  if c = '0' then none
  else if c.isDigit then some (c.toNat - '0'.toNat, cs.drop 1)
  else some (0, cs)

/-- The signs after the beginning of a block: what happens to its last breaks, its indentation, and
the rest. -/
def blockSigns? (cs : List Spot) : Option (Chomping × Nat × List Spot) :=
  match Chomping.ofSign? (charAt 0 cs) with
  | some chomping => (blockDigit? (cs.drop 1)).map fun (digit, rest) => (chomping, digit, rest)
  | none => do
    let (digit, rest) ← blockDigit? cs
    match digit, Chomping.ofSign? (charAt 0 rest) with
    | _ + 1, some chomping => return (chomping, digit, rest.drop 1)
    | _, _ => return (.clip, digit, rest)

/-- Passes over empty lines and the indentation of the next one: how many line breaks there were,
and the rest. A line without content has no more blanks than the indentation. -/
def skipIndent (indent : Nat) : List Spot → Nat × List Spot
  | [] => (0, [])
  | c :: rest =>
    if c.char = ' ' && c.column < indent then skipIndent indent rest
    else if isBreak c.char then
      let (breaks, rest) := skipIndent indent rest
      (breaks + 1, rest)
    else (0, c :: rest)

/-- Passes over empty lines and the blanks before the first content: the greatest column reached,
how many line breaks there were, and the rest. -/
def firstIndent : (reached breaks : Nat) → List Spot → Nat × Nat × List Spot
  | reached, breaks, [] => (reached, breaks, [])
  | reached, breaks, c :: rest =>
    if c.char = ' ' then firstIndent reached breaks rest
    else
      let reached := max reached c.column
      if isBreak c.char then firstIndent reached (breaks + 1) rest
      else (reached, breaks, c :: rest)

/-- A number of line breaks as text. -/
def lineBreaks (n : Nat) : List Char := List.replicate n '\n'

/-- The lines of a block: its text without the breaks at the end, whether the last line has a
break, how many empty lines follow, and the rest. `pending` says whether a line break stands before
the next line, `breaks` how many empty lines, and `blankBefore` whether the line before began with a
blank; `fuel` bounds the number of lines. -/
def blockLines (literal : Bool) (indent : Nat) : (fuel : Nat) → (pending : Bool) →
    (breaks : Nat) → (blankBefore : Bool) → List Spot → List Char × Bool × Nat × List Spot
  | 0, pending, breaks, _, cs => ([], pending, breaks, cs)
  | fuel + 1, pending, breaks, blankBefore, cs =>
    if (here cs).column != indent || charAt 0 cs = endMark || indent = 0 && isDocumentMark cs then
      ([], pending, breaks, cs)
    else
      let blank := isBlank (charAt 0 cs)
      let gap :=
        if !literal && pending && !blankBefore && !blank then
          if breaks = 0 then [' '] else lineBreaks breaks
        else lineBreaks ((if pending then 1 else 0) + breaks)
      let content := takeChars (!isLineEnd ·) cs
      let rest := cs.drop content.length
      if charAt 0 rest = endMark then (gap ++ content, false, 0, rest)
      else
        let (empty, rest) := skipIndent indent (rest.drop 1)
        let (more, ending) := blockLines literal indent fuel true empty blank rest
        (gap ++ content ++ more, ending)

/-- A block whose first character has been read, and the rest. -/
def block? (literal : Bool) (indent : Int) (cs : List Spot) : Option (String × List Spot) := do
  let start := (here cs).line
  let (chomping, digit, rest) ← blockSigns? cs
  let rest := (← trailing? true rest).rest
  if !isLineEnd (charAt 0 rest) then none
  else
    let broken := isBreak (charAt 0 rest)
    let rest := if broken then rest.drop 1 else rest
    if charAt 0 rest = '\t' then none
    else
      let (column, breaks, rest) :=
        if digit = 0 then
          let (reached, breaks, rest) := firstIndent 0 0 rest
          let column := max reached (indent + 1).toNat
          (if 0 < indent then max column 1 else column, breaks, rest)
        else
          let column := if 0 ≤ indent then indent.toNat + digit else digit
          let (breaks, rest) := skipIndent column rest
          (column, breaks, rest)
      if charAt 0 rest = endMark then
        let text :=
          if chomping = .strip || (here rest).line = start then []
          else if chomping = .keep && breaks != 0 then lineBreaks breaks
          else lineBreaks (if broken then 1 else 0)
        return (String.ofList text, rest)
      else if (here rest).column < column && indent < ((here rest).column : Int) then none
      else
        let (text, pending, empty, rest) :=
          blockLines literal column (rest.length + 1) false breaks false rest
        let last :=
          if chomping = .strip then []
          else
            lineBreaks (if pending then 1 else 0)
              ++ if charAt 0 rest = endMark && (max indent 1) ≤ ((here rest).column : Int) then ['\n']
                else []
        let kept := if chomping = .keep then lineBreaks empty else []
        return (String.ofList (text ++ last ++ kept), rest)

end TestDouble.Yaml
