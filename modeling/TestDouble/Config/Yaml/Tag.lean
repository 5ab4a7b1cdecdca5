import TestDouble.Config.Yaml.Token
import TestDouble.Number.Numeral

/-!
# Tags and directives of YAML

A tag says what kind of value a node is. It has a handle, which stands for the beginning of its
name, and a suffix; the name may also be written out between angle brackets. A directive in front
of a document gives the version of the notation or what a handle stands for; any other directive
is passed over.

Each reader takes the spots that are left and gives back those it did not need.
-/

namespace TestDouble.Yaml

/-- Whether a character may stand in the name of a tag. -/
def isUriChar (c : Char) : Bool :=
  c.isAlphanum || "-#;/?:@&=+$,_.!~*'()[]%".toList.contains c

/-- Whether a character may stand in the suffix of a tag. -/
def isTagChar (c : Char) : Bool := isUriChar c && !isBracket c && c != '!'

/-- The characters of a name, in which a percent sign and two hexadecimal digits stand for one. -/
def uri? (p : Char → Bool) : (fuel : Nat) → List Spot → Option (List Char × List Spot)
  | 0, _ => none
  | fuel + 1, cs =>
    let c := charAt 0 cs
    if c = '%' && p c then do
      let (d, _) ← Numeral.codePoint? 2 [charAt 1 cs, charAt 2 cs]
      let (more, rest) ← uri? p fuel (cs.drop 3)
      return (d :: more, rest)
    else if p c then do
      let (more, rest) ← uri? p fuel (cs.drop 1)
      return (c :: more, rest)
    else some ([], cs)

/-- The handle of a tag; that of a directive ends in an exclamation mark. -/
def tagHandle? (isDirective : Bool) (cs : List Spot) : Option (String × List Spot) :=
  if charAt 0 cs != '!' then none
  else
    let name := takeChars isWordChar (cs.drop 1)
    let rest := cs.drop (1 + name.length)
    if charAt 0 rest = '!' then some (String.ofList ('!' :: name ++ ['!']), rest.drop 1)
    else if isDirective && !name.isEmpty then none
    else some (String.ofList ('!' :: name), rest)

/-- Whether a handle has an exclamation mark at either end. -/
def isNamedHandle (handle : String) : Bool :=
  let cs := handle.toList
  2 ≤ cs.length && cs.head? = some '!' && cs.getLast? = some '!'

/-- The handle and the suffix of a tag, and the rest. -/
def tag? (cs : List Spot) : Option (String × String × List Spot) :=
  let fuel := cs.length + 1
  if charAt 1 cs = '<' then do
    let (name, rest) ← uri? isUriChar fuel (cs.drop 2)
    if charAt 0 rest = '>' then return ("", String.ofList name, rest.drop 1) else none
  else do
    let (handle, rest) ← tagHandle? false cs
    let (suffix, rest) ← uri? isTagChar fuel rest
    if isNamedHandle handle then
      if suffix.isEmpty then none else return (handle, String.ofList suffix, rest)
    else
      let suffix := handle.toList.drop 1 ++ suffix
      if suffix.isEmpty then return ("", "!", rest) else return ("!", String.ofList suffix, rest)

/-- Digits of a version, nine at most. -/
def versionNumber? (cs : List Spot) : Option (List Spot) :=
  let digits := takeChars Char.isDigit cs
  if digits.isEmpty || 9 < digits.length then none else some (cs.drop digits.length)

/-- What follows a version. -/
def version? (cs : List Spot) : Option (List Spot) := do
  let rest ← versionNumber? (skipWhile isBlank cs)
  if charAt 0 rest = '.' then versionNumber? (rest.drop 1) else none

/-- A handle and what it stands for, and the rest. -/
def shorthand? (cs : List Spot) : Option (Token × List Spot) := do
  let (handle, rest) ← tagHandle? true (skipWhile isBlank cs)
  let rest := skipWhile isBlank rest
  let c := charAt 0 rest
  if c != '!' && !isTagChar c then none
  else
    let (target, rest) ← uri? isUriChar (rest.length + 1) rest
    if isGap (charAt 0 rest) then return (.shorthand handle (String.ofList target), rest) else none

/-- A directive whose percent sign has been read, up to the end of its line. -/
def directive? (cs : List Spot) : Option (Token × List Spot) := do
  let name := takeChars isWordChar cs
  let rest := cs.drop name.length
  if name.isEmpty || !isGap (charAt 0 rest) then none
  else
    let (t, rest) ←
      if name = "YAML".toList then (version? rest).map fun rest => (.version, rest)
      else if name = "TAG".toList then shorthand? rest
      else some (.shorthand "" "", skipWhile (!isLineEnd ·) rest)
    let rest := (← trailing? true rest).rest
    if isLineEnd (charAt 0 rest) then return (t, rest) else none

end TestDouble.Yaml
