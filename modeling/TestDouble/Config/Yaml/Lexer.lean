import TestDouble.Config.Yaml.Scalar
import TestDouble.Config.Yaml.Tag

/-!
# Reading the tokens of YAML

A lexer reads one token after another and keeps account of the indentation. That a scalar or a list
is the name of an entry shows only at the colon after it, so the lexer remembers where the name may
have begun and puts the token before it then. Such a name stands on one line and has at most a
thousand and twenty-four characters, except inside brackets.
-/

namespace TestDouble.Yaml

/-- A place where the name of an entry may have begun. -/
structure Candidate where
  /-- Whether a name may still be found to begin here. -/
  isOpen : Bool
  /-- Whether nothing but a name may begin here. -/
  isRequired : Bool
  /-- How many tokens stand before it. -/
  position : Nat
  spot : Spot
  deriving Inhabited

/-- The column of a surrounding list or mapping, to return to, and whether what has begun since is
a list or mapping with an end of its own. -/
structure Indent where
  outer : Int
  isBlock : Bool

/-- How a lexer stands between two tokens. -/
structure Lexer where
  rest : List Spot
  /-- The tokens read so far, the last one first. -/
  tokens : List Token := []
  /-- How many tokens have been read. -/
  count : Nat := 0
  /-- Whether the last token is an anchor or a tag at the beginning of a line. -/
  atMargin : Bool := false
  /-- Whether the name of an entry may begin. -/
  mayBegin : Bool := true
  /-- Where names may have begun, one place for each open bracket and one outside of them. -/
  candidates : List Candidate
  /-- The column of the surrounding list or mapping. -/
  indent : Int := -1
  indents : List Indent := []
  /-- How many brackets are open. -/
  flow : Nat := 0
  /-- Where a colon ends a name although no blank follows. -/
  adjacent : Nat := 0
  /-- Whether a mapping in braces or an entry with a question mark has begun. -/
  inMapping : Bool := false
  /-- For each open list in brackets whether it is in an entry that is not in braces. -/
  implicit : List Bool := []

namespace Lexer

/-- A lexer at the beginning of a text. -/
def ofText (text : String) : Lexer :=
  let rest := Spot.ofText text
  { rest, candidates := [⟨false, false, 0, here rest⟩] }

/-- The longest name of an entry. -/
def longestName : Nat := 1024

/-- The most brackets that may be open. -/
def deepestFlow : Nat := 255

/-- Adds a token at the end. -/
def push (s : Lexer) (t : Token) : Lexer :=
  { s with tokens := t :: s.tokens, count := s.count + 1, atMargin := false }

/-- Adds a token before others, of which a number comes first. -/
def insert (s : Lexer) (position : Nat) (t : Token) : Lexer :=
  let after := s.count - position
  { s with tokens := s.tokens.take after ++ t :: s.tokens.drop after, count := s.count + 1 }

/-! ### Where names begin -/

/-- Remembers that a name may begin here. -/
def save (s : Lexer) : Lexer :=
  if s.mayBegin then
    let spot := here s.rest
    let required :=
      s.flow = 0 && s.indent = (spot.column : Int) && (s.indents.head?.any Indent.isBlock)
    { s with candidates := ⟨true, required, s.count, spot⟩ :: s.candidates.drop 1 }
  else s

/-- Gives up that a name may have begun, unless one must have. -/
def giveUp? (s : Lexer) : Option Lexer :=
  match s.candidates with
  | [] => some s
  | c :: rest =>
    if c.isOpen && c.isRequired then none
    else some { s with candidates := { c with isOpen := false } :: rest }

/-- Gives up the places that are too far away for a name to have begun there. -/
def forget? (s : Lexer) : Option Lexer := do
  if s.flow != 0 then return s
  let spot := here s.rest
  let isStale := fun (c : Candidate) =>
    c.isOpen && (c.spot.line < spot.line || c.spot.index + longestName < spot.index)
  if s.candidates.any fun c => isStale c && c.isRequired then none
  else
    return { s with
      candidates := s.candidates.map fun c => if isStale c then { c with isOpen := false } else c }

/-! ### Indentation -/

/-- Ends lists and mappings until the surrounding one begins no further right than a column. The
result has the column of that one, and how many ends there are. -/
def leave (column : Int) : (indent : Int) → List Indent → Int × List Indent × Nat
  | indent, [] => (indent, [], 0)
  | indent, i :: rest =>
    if column < indent then
      let (indent, indents, ends) := leave column i.outer rest
      (indent, indents, ends + if i.isBlock then 1 else 0)
    else (indent, i :: rest, 0)

/-- Ends what is further right than a column. -/
def unroll (s : Lexer) (column : Int) : Lexer :=
  if s.flow != 0 then s
  else
    let (indent, indents, ends) := leave column s.indent s.indents
    (List.replicate ends Token.blockEnd).foldl push { s with indent, indents }

/-- Begins a list or mapping at a column, unless one has begun there. -/
def roll (s : Lexer) (column : Nat) (position : Nat) (t : Token) : Lexer :=
  if s.flow != 0 then s
  else
    let s :=
      match s.indents with
      | i :: rest =>
        if s.indent ≤ (column : Int) && !i.isBlock then
          { s with indent := i.outer, indents := rest }
        else s
      | [] => s
    if s.indent < (column : Int) then
      let s := { s with indents := ⟨s.indent, true⟩ :: s.indents, indent := column }
      if position = s.count then s.push t else s.insert position t
    else s

/-- Asks for what follows to be one column further right than the list or mapping around it. -/
def rollOne (s : Lexer) : Lexer :=
  if s.flow = 0 && s.indents.head?.any Indent.isBlock then
    { s with indents := ⟨s.indent, false⟩ :: s.indents, indent := s.indent + 1 }
  else s

/-- Takes back what `rollOne` has asked for. -/
def unrollOne (s : Lexer) : Lexer :=
  match s.indents.span fun i => !i.isBlock with
  | ([], _) => s
  | (asked, rest) =>
    { s with indent := (asked.getLast?.map Indent.outer).getD s.indent, indents := rest }

/-! ### Tokens -/

/-- Passes over blanks and a comment at the end of a line. -/
def trail? (s : Lexer) : Option Lexer :=
  (trailing? true s.rest).map fun t => { s with rest := t.rest }

/-- Passes over a number of characters. -/
def drop (s : Lexer) (n : Nat) : Lexer := { s with rest := s.rest.drop n }

/-- Passes over blanks, comments and line breaks. `inComment` says that a comment has begun. A tab
left of the indentation may stand on a line that has nothing but a comment. -/
def skipLayout? (inBlock : Bool) (indent : Int) : (inComment foundBreak : Bool) → List Spot →
    Option (Bool × List Spot)
  | _, _, [] => none
  | inComment, foundBreak, c :: rest =>
    if isBreak c.char then skipLayout? inBlock indent false true rest
    else if inComment && c.char != endMark then skipLayout? inBlock indent true foundBreak rest
    else if c.char = '#' then skipLayout? inBlock indent true foundBreak rest
    else if isBlank c.char then
      if c.char = '\t' && inBlock && c.isFresh && (c.column : Int) < indent && !isBareLine rest
      then none
      else skipLayout? inBlock indent false foundBreak rest
    else some (foundBreak, c :: rest)

/-- Passes over what stands between two tokens. A name may begin on a new line. -/
def skip? (s : Lexer) : Option Lexer := do
  let (foundBreak, rest) ← skipLayout? (!s.indents.isEmpty) s.indent false false s.rest
  return { s with rest, mayBegin := s.mayBegin || foundBreak && s.flow = 0 }

/-- The end of the text. -/
def streamEnd? (s : Lexer) : Option Lexer :=
  if s.candidates.any fun c => c.isOpen && c.isRequired then none
  else some ((s.unroll (-1)).push .streamEnd)

/-- The mark of the beginning or of the end of a document. -/
def documentMark? (s : Lexer) (t : Token) : Option Lexer := do
  let s ← (s.unroll (-1)).giveUp?
  return ({ s with mayBegin := false }.drop 3).push t

/-- The mark of the end of a document, after which nothing but a comment stands on its line. -/
def documentEnd? (s : Lexer) : Option Lexer := do
  let s ← (← s.documentMark? .documentEnd).trail?
  if isLineEnd (charAt 0 s.rest) then return s else none

/-- An opening bracket. -/
def openFlow? (s : Lexer) (isMapping : Bool) : Option Lexer := do
  let s := s.save.rollOne
  if s.flow = deepestFlow then none
  else
    let s := { s with
      candidates := ⟨false, false, 0, here s.rest⟩ :: s.candidates
      flow := s.flow + 1
      mayBegin := true
      inMapping := s.inMapping || isMapping
      implicit := if isMapping then s.implicit else false :: s.implicit }
    let s ← (s.drop 1).trail?
    return s.push (if isMapping then .flowMappingStart else .flowListStart)

/-- Ends an entry that is not in braces. -/
def endImplicit (s : Lexer) : Lexer :=
  match s.implicit with
  | true :: rest => { s with implicit := false :: rest, inMapping := false }.push .flowMappingEnd
  | _ => s

/-- A closing bracket. -/
def closeFlow? (s : Lexer) (isMapping : Bool) : Option Lexer := do
  let s ← s.giveUp?
  let s := { s with
    candidates := if s.flow = 0 then s.candidates else s.candidates.drop 1
    flow := s.flow - 1
    mayBegin := false }
  let s := if isMapping then s else { s.endImplicit with implicit := s.endImplicit.implicit.drop 1 }
  let s ← (s.drop 1).trail?
  let s := if s.flow = 0 then s else { s with adjacent := (here s.rest).index }
  return s.push (if isMapping then .flowMappingEnd else .flowListEnd)

/-- A comma. -/
def flowItem? (s : Lexer) : Option Lexer := do
  let s ← s.giveUp?
  let s ← ({ s with mayBegin := true }.endImplicit.drop 1).trail?
  return s.push .flowItem

/-- A hyphen before an item of a list. -/
def blockItem? (s : Lexer) : Option Lexer := do
  let column := (here s.rest).column
  if s.flow != 0 || !s.mayBegin || s.atMargin && column = 0 && -1 < s.indent then none
  else
    let s := (s.drop 1).roll column s.count .blockListStart
    let blanks ← trailing? true s.rest
    if blanks.hasTab && charAt 0 blanks.rest = '-' && isGap (charAt 1 blanks.rest) then none
    else
      let s := { s with rest := blanks.rest }
      let c := charAt 0 s.rest
      let s := if isBreak c || isBracket c then s.rollOne else s
      let s ← s.giveUp?
      return { s with mayBegin := true }.push .blockItem

/-- Passes over spaces, comments and line breaks after a question mark: whether there was a space
or a break, whether there was a break, and the rest. -/
def skipSpaces (inComment : Bool) (found foundBreak : Bool) : List Spot → Bool × Bool × List Spot
  | [] => (found, foundBreak, [])
  | c :: rest =>
    if isBreak c.char then skipSpaces false true true rest
    else if inComment && c.char != endMark then skipSpaces true found foundBreak rest
    else if c.char = '#' then skipSpaces true found foundBreak rest
    else if c.char = ' ' then skipSpaces false true foundBreak rest
    else (found, foundBreak, c :: rest)

/-- A question mark before the name of an entry. -/
def explicitKey? (s : Lexer) : Option Lexer := do
  let inFlow := s.flow != 0
  if !inFlow && !s.mayBegin then none
  else
    let s :=
      if inFlow then { s with inMapping := true }
      else s.roll (here s.rest).column s.count .blockMappingStart
    let s ← s.giveUp?
    let (found, foundBreak, rest) := skipSpaces false false false (s.rest.drop 1)
    if !found || charAt 0 rest = '\t' then none
    else
      let s := { s with rest, mayBegin := !inFlow || foundBreak && !inFlow }
      return s.push .key

/-- A colon after the name of an entry. -/
def value? (s : Lexer) : Option Lexer := do
  let colon := here s.rest
  let isImplicit := !s.implicit.isEmpty && !s.inMapping
  let s := if isImplicit then { s with implicit := true :: s.implicit.drop 1 } else s
  let s := s.drop 1
  let s ←
    if charAt 0 s.rest = '\t' then do
      let blanks ← trailing? true s.rest
      let c := charAt 0 blanks.rest
      if !blanks.hasSpace && isWordChar c then none else pure { s with rest := blanks.rest }
    else pure s
  match s.candidates with
  | ⟨true, _, position, spot⟩ :: candidates =>
    let s := s.insert position .key
    if isImplicit && spot.line < colon.line then none
    else
      let s := if isImplicit then s.insert position .flowMappingStart else s
      let s := (s.roll spot.column position .blockMappingStart).rollOne
      let s := { s with
        candidates := ⟨false, false, position, spot⟩ :: candidates
        mayBegin := false }
      return s.push .value
  | _ =>
    let s := if isImplicit then s.push .flowMappingStart else s
    if s.flow != 0 then return { s with mayBegin := false }.push .value
    else if !s.mayBegin then none
    else
      let s := (s.roll colon.column s.count .blockMappingStart).rollOne
      return { s with mayBegin := true }.push .value

/-- An anchor, or a reference to one. -/
def anchor? (s : Lexer) (isReference : Bool) : Option Lexer :=
  let atMargin := (here s.rest).column = 0
  let s := { s.save.drop 1 with mayBegin := false }
  let name := takeChars (fun c => !isGap c && !isBracket c) s.rest
  if name.isEmpty then none
  else
    let s := s.drop name.length
    if isReference then some (s.push (.reference (String.ofList name)))
    else some { s.push (.anchor (String.ofList name)) with atMargin }

/-- A scalar in quotes. -/
def quotedScalar? (s : Lexer) (single : Bool) : Option Lexer := do
  let line := (here s.rest).line
  let s := { s.save.drop 1 with mayBegin := false }
  let (text, rest) ← quoted? single s.indent (s.rest.length + 1) s.rest
  let s ← { s with rest }.trail?
  let c := charAt 0 s.rest
  let mayFollow :=
    isLineEnd c
      || s.flow != 0 && [',', '\x7d', ']', ':'].contains c
      || s.flow = 0 && c = ':' && line = (here s.rest).line
  if !mayFollow then none
  else
    let s ← s.skip?
    return { s with adjacent := (here s.rest).index }.push (.scalar false (String.ofList text))

/-- A plain scalar. -/
def plainScalar? (s : Lexer) : Option Lexer := do
  let s := { s.save with mayBegin := false }.unrollOne
  let (text, rest) ← plain? (s.flow != 0) (s.indent + 1) s.rest
  return { s with rest, mayBegin := (here rest).isFresh }.push (.scalar true text)

/-- A block of lines. -/
def blockScalar? (s : Lexer) (literal : Bool) : Option Lexer := do
  let s := { s.save.drop 1 with mayBegin := true }.unrollOne
  let (text, rest) ← block? literal s.indent s.rest
  return { s with rest }.push (.scalar false text)

/-- A tag. -/
def tag? (s : Lexer) : Option Lexer := do
  let atMargin := (here s.rest).column = 0
  let s := { s.save with mayBegin := false }
  let (handle, suffix, rest) ← Yaml.tag? s.rest
  let c := charAt 0 rest
  if isGap c || s.flow != 0 && isBracket c then
    return { { s with rest }.push (.tag handle suffix) with atMargin }
  else none

/-- A directive. -/
def directive? (s : Lexer) : Option Lexer := do
  let s ← (s.unroll (-1)).giveUp?
  let (t, rest) ← Yaml.directive? (s.rest.drop 1)
  return { s with rest, mayBegin := false }.push t

/-- The token at a place where one begins. -/
def token? (s : Lexer) : Option Lexer :=
  let spot := here s.rest
  let next := charAt 1 s.rest
  let inFlow := s.flow != 0
  let isColon := isGap next || inFlow && (isBracket next || spot.index = s.adjacent)
  if spot.char = endMark then s.streamEnd?
  else if spot.column = 0 && spot.char = '%' then s.directive?
  else if isTriple '-' s.rest then s.documentMark? .documentStart
  else if isTriple '.' s.rest then s.documentEnd?
  else if (spot.column : Int) < s.indent then none
  else
    match spot.char with
    | '[' => s.openFlow? false
    | '\x7b' => s.openFlow? true
    | ']' => s.closeFlow? false
    | '\x7d' => s.closeFlow? true
    | ',' => s.flowItem?
    | '-' => if isGap next then s.blockItem? else s.plainScalar?
    | '?' => if isGap next then s.explicitKey? else s.plainScalar?
    | ':' => if isColon then s.value? else s.plainScalar?
    | '*' => s.anchor? true
    | '&' => s.anchor? false
    | '!' => s.tag?
    | '|' => if inFlow then s.plainScalar? else s.blockScalar? true
    | '>' => if inFlow then s.plainScalar? else s.blockScalar? false
    | '\'' => s.quotedScalar? true
    | '"' => s.quotedScalar? false
    | '%' | '@' | '\x60' => none
    | _ => s.plainScalar?

/-- Reads the next token. -/
def next? (s : Lexer) : Option Lexer := do
  let s ← (← s.skip?).forget?
  (s.unroll (here s.rest).column).token?

/-- Reads all tokens; `fuel` bounds their number. -/
def run? : (fuel : Nat) → Lexer → Option (List Token)
  | 0, _ => none
  | fuel + 1, s => do
    let s ← s.next?
    if s.tokens.head? = some .streamEnd then return s.tokens.reverse else run? fuel s

end Lexer

/-- The tokens of a text. Every step but the last one passes over at least one character. -/
def Token.ofText? (text : String) : Option (List Token) :=
  (Lexer.ofText text).run? (text.length + 2)

end TestDouble.Yaml
