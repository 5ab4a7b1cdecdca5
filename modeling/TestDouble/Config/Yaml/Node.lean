import TestDouble.Config.Yaml.Lexer
import TestDouble.Config.Yaml.Word

/-!
# Nodes of YAML

A document is a node: a word, a list of nodes or a mapping from nodes to nodes. `Node.ofText?`
reads the one document of a text. No name may occur twice in a mapping; names are compared as what
they mean, so that the integer `1` and the text `"1"` are different names.

An anchor gives a node a name, by which a reference stands for it further on.
-/

namespace TestDouble.Yaml

/-- A document or a part of one. -/
inductive Node where
  | word (w : Word)
  | list (items : List Node)
  | mapping (entries : List (Node × Node))
  deriving Inhabited

namespace Node

/-- Nothing. -/
def nothing : Node := .word .nothing

mutual

/-- Whether two nodes mean the same. -/
def same : Node → Node → Bool
  | .word v, .word w => v = w
  | .list vs, .list ws => sameItems vs ws
  | .mapping vs, .mapping ws => sameEntries vs ws
  | _, _ => false

/-- Whether two lists of nodes mean the same. -/
def sameItems : List Node → List Node → Bool
  | [], [] => true
  | v :: vs, w :: ws => v.same w && sameItems vs ws
  | _, _ => false

/-- Whether the entries of two mappings mean the same. -/
def sameEntries : List (Node × Node) → List (Node × Node) → Bool
  | [], [] => true
  | (k, v) :: vs, (l, w) :: ws => k.same l && v.same w && sameEntries vs ws
  | _, _ => false

end

/-- Puts an entry in front of others, none of which may have its name. -/
def entry? (name v : Node) (entries : List (Node × Node)) : Option (List (Node × Node)) :=
  if entries.any fun e => e.1.same name then none else some ((name, v) :: entries)

/-- How far a document has been read. -/
structure Reading where
  /-- The tokens that are left. -/
  tokens : List Token
  /-- What the handles of tags stand for. -/
  shorthands : List (String × String) := []
  /-- How many anchors there were. -/
  anchorCount : Nat := 0
  /-- The numbers of the anchors by their names, the last one first. -/
  anchors : List (String × Nat) := []
  /-- The nodes that are complete, by the numbers of their anchors. -/
  nodes : List (Nat × Node) := []

/-- Reads a part of a document. -/
abbrev Reader (α : Type) : Type := StateT Reading Option α

namespace Reader

/-- The next token. -/
def peek : Reader Token := do return (← get).tokens.headD .streamEnd

/-- Passes over the next token. -/
def skip : Reader Unit := modify fun s => { s with tokens := s.tokens.drop 1 }

/-- Passes over the next token, which must be the one given. -/
def expect (t : Token) : Reader Unit := do
  if (← peek) = t then skip else failure

/-- Gives an anchor its number. -/
def register (name : String) : Reader Nat := do
  let s ← get
  set { s with
    anchorCount := s.anchorCount + 1, anchors := (name, s.anchorCount) :: s.anchors }
  return s.anchorCount

/-- The node that a reference stands for: nothing, while that node is not complete. -/
def resolve (name : String) : Reader Node := do
  let s ← get
  match s.anchors.lookup name with
  | none => failure
  | some n => return (s.nodes.lookup n).getD nothing

/-- The full handle and the suffix of a tag. -/
def fullTag (handle suffix : String) : Reader (String × String) := do
  let known := (← get).shorthands
  if handle = "!!" then return ((known.lookup "!!").getD Word.tagHome, suffix)
  else if handle = "" && suffix = "!" then return ((known.lookup "").getD "", suffix)
  else
    match known.lookup handle with
    | some target => return (target, suffix)
    | none => if isNamedHandle handle then failure else return (handle, suffix)

/-- The tag and the number of the anchor in front of a node, in either order. -/
def properties : Reader (Option (String × String) × Option Nat) := do
  match ← peek with
  | .anchor name =>
    skip
    let n ← register name
    match ← peek with
    | .tag handle suffix =>
      skip
      return (some (← fullTag handle suffix), some n)
    | _ => return (none, some n)
  | .tag handle suffix =>
    skip
    let tag ← fullTag handle suffix
    match ← peek with
    | .anchor name =>
      skip
      return (some tag, some (← register name))
    | _ => return (some tag, none)
  | _ => return (none, none)

/-- The word of a scalar. -/
def wordOf (tag : Option (String × String)) (plain : Bool) (written : String) : Word :=
  if !plain then .text written
  else
    match tag with
    | some (handle, suffix) => .ofTagged handle suffix written
    | none => .ofPlain written

/-- Nothing if one of the tokens is next, or else what is read. -/
def nodeUnless (ends : List Token) (read : Reader Node) : Reader Node := do
  if ends.contains (← peek) then return nothing else read

mutual

/-- A node. Lists and mappings written by indentation are nodes if `block`, and items of a list
that are indented no further than what surrounds them if `level`. -/
def node : (fuel : Nat) → (block level : Bool) → Reader Node
  | 0, _, _ => failure
  | fuel + 1, block, level => do
    match ← peek with
    | .reference name =>
      skip
      resolve name
    | _ =>
      let (tag, anchor) ← properties
      let v ← body fuel block level tag (tag.isSome || anchor.isSome)
      match anchor with
      | some n => modify fun s => { s with nodes := (n, v) :: s.nodes }
      | none => pure ()
      return v

/-- A node after its tag and its anchor; if there is one of them, it may be empty. -/
def body : (fuel : Nat) → (block level : Bool) → (tag : Option (String × String)) →
    (mayBeEmpty : Bool) → Reader Node
  | 0, _, _, _, _ => failure
  | fuel + 1, block, level, tag, mayBeEmpty => do
    match ← peek, block, level with
    | .blockItem, _, true => return .list (← levelItems fuel)
    | .scalar plain written, _, _ =>
      skip
      return .word (wordOf tag plain written)
    | .flowListStart, _, _ =>
      skip
      return .list (← flowItems fuel true)
    | .flowMappingStart, _, _ =>
      skip
      return .mapping (← flowEntries fuel true)
    | .blockListStart, true, _ =>
      skip
      return .list (← blockItems fuel)
    | .blockMappingStart, true, _ =>
      skip
      return .mapping (← blockEntries fuel)
    | _, _, _ => if mayBeEmpty then return .word (wordOf tag true "") else failure

/-- The items of a list in brackets up to its end. -/
def flowItems : (fuel : Nat) → (first : Bool) → Reader (List Node)
  | 0, _ => failure
  | fuel + 1, first => do
    match ← peek, first with
    | .flowListEnd, _ =>
      skip
      return []
    | .flowItem, false => skip
    | _, false => failure
    | _, true => pure ()
    match ← peek with
    | .flowListEnd =>
      skip
      return []
    | .key =>
      skip
      let ends := [.value, .flowItem, .flowListEnd]
      let name ←
        if ends.contains (← peek) then do
          skip
          pure nothing
        else node fuel false false
      let v ←
        if (← peek) = .value then do
          skip
          nodeUnless [.flowItem, .flowListEnd] (node fuel false false)
        else pure nothing
      return .mapping [(name, v)] :: (← flowItems fuel false)
    | _ =>
      let v ← node fuel false false
      return v :: (← flowItems fuel false)

/-- The entries of a mapping in braces up to its end. -/
def flowEntries : (fuel : Nat) → (first : Bool) → Reader (List (Node × Node))
  | 0, _ => failure
  | fuel + 1, first => do
    match ← peek, first with
    | .flowMappingEnd, _ =>
      skip
      return []
    | .flowItem, false => skip
    | _, false => failure
    | _, true => pure ()
    match ← peek with
    | .flowMappingEnd =>
      skip
      return []
    | .key =>
      skip
      let name ← nodeUnless [.value, .flowItem, .flowMappingEnd] (node fuel false false)
      let v ← flowValue fuel
      entry? name v (← flowEntries fuel false)
    | .value =>
      let v ← flowValue fuel
      entry? nothing v (← flowEntries fuel false)
    | _ =>
      let name ← node fuel false false
      entry? name nothing (← flowEntries fuel false)

/-- The value of an entry in braces, if there is one. -/
def flowValue : (fuel : Nat) → Reader Node
  | 0 => failure
  | fuel + 1 => do
    if (← peek) = .value then
      skip
      nodeUnless [.flowItem, .flowMappingEnd] (node fuel false false)
    else return nothing

/-- The items of a list written by indentation up to its end. -/
def blockItems : (fuel : Nat) → Reader (List Node)
  | 0 => failure
  | fuel + 1 => do
    match ← peek with
    | .blockEnd =>
      skip
      return []
    | .blockItem =>
      skip
      let v ← nodeUnless [.blockItem, .blockEnd] (node fuel true false)
      return v :: (← blockItems fuel)
    | _ => failure

/-- The items of a list that is indented no further than what surrounds it. -/
def levelItems : (fuel : Nat) → Reader (List Node)
  | 0 => failure
  | fuel + 1 => do
    if (← peek) = .blockItem then
      skip
      let v ← nodeUnless [.blockItem, .key, .value, .blockEnd] (node fuel true false)
      return v :: (← levelItems fuel)
    else return []

/-- The entries of a mapping written by indentation up to its end. -/
def blockEntries : (fuel : Nat) → Reader (List (Node × Node))
  | 0 => failure
  | fuel + 1 => do
    match ← peek with
    | .blockEnd =>
      skip
      return []
    | .key =>
      skip
      let name ← nodeUnless [.key, .value, .blockEnd] (node fuel true true)
      let v ← blockValue fuel
      entry? name v (← blockEntries fuel)
    | .value =>
      let v ← blockValue fuel
      entry? nothing v (← blockEntries fuel)
    | _ => failure

/-- The value of an entry written by indentation, if there is one. -/
def blockValue : (fuel : Nat) → Reader Node
  | 0 => failure
  | fuel + 1 => do
    if (← peek) = .value then
      skip
      nodeUnless [.key, .value, .blockEnd] (node fuel true true)
    else return nothing

end

/-- The directives in front of a document; a version may be given once. Only the last directive
tells what a handle stands for. -/
def directives : (fuel : Nat) → (hasVersion : Bool) → Reader Unit
  | 0, _ => failure
  | fuel + 1, hasVersion => do
    match ← peek with
    | .version =>
      if hasVersion then failure
      skip
      modify fun s => { s with shorthands := [] }
      directives fuel true
    | .shorthand handle target =>
      skip
      modify fun s => { s with shorthands := [(handle, target)] }
      directives fuel hasVersion
    | _ => return ()

/-- Passes over the ends of documents. -/
def documentEnds : Reader Unit :=
  modify fun s => { s with tokens := s.tokens.dropWhile (· = .documentEnd) }

/-- Whether a token belongs to what stands in front of a document. -/
def isPreamble : Token → Bool
  | .version | .shorthand _ _ | .documentStart => true
  | _ => false

/-- The only document of a text, if there is one. -/
def document (fuel : Nat) : Reader (Option Node) := do
  documentEnds
  let t ← peek
  if t = .streamEnd then return none
  let v ←
    if isPreamble t then do
      directives fuel false
      expect .documentStart
      let t ← peek
      if isPreamble t || t = .documentEnd || t = .streamEnd then pure nothing
      else node fuel true false
    else node fuel true false
  documentEnds
  expect .streamEnd
  return some v

end Reader

/-- Reads the only document of a text; there may be none. -/
def ofText? (text : String) : Option (Option Node) := do
  let tokens ← Token.ofText? text
  let (v, _) ← (Reader.document (3 * tokens.length + 3)).run { tokens }
  return v

end Node
end TestDouble.Yaml
