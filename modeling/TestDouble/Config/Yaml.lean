import TestDouble.Config.LoadError
import TestDouble.Config.Yaml.Node

/-!
# YAML files

A file is empty or one mapping. The names in its mappings are texts or integers, which are taken as
texts; nobody has provided for others. A real number that cannot be read makes the file malformed.
-/

namespace TestDouble.Yaml

namespace Node

/-- The name that a node is in a mapping. -/
def name : Node → Except LoadError String
  | .word (.text s) => .ok s
  | .word (.int n) => .ok (toString n)
  | _ => .error .unforeseen

mutual

/-- What a node says. -/
def content : Node → Except LoadError Content
  | .word w => (LoadError.orFileParse w.scalar?).map .scalar
  | .list vs => (contents vs).map .list
  | .mapping es => (entryContents es).map .table

/-- What nodes say. -/
def contents : List Node → Except LoadError (List Content)
  | [] => .ok []
  | v :: rest => do return (← content v) :: (← contents rest)

/-- What the entries of a mapping say. -/
def entryContents : List (Node × Node) → Except LoadError (List (String × Content))
  | [] => .ok []
  | (name, v) :: rest => do
    let name ← name.name
    let v ← content v
    return (name, v) :: (← entryContents rest)

end

end Node

/-- Reads a file. -/
def parse (text : String) : Except LoadError (List (String × Content)) := do
  match ← LoadError.orFileParse (Node.ofText? text) with
  | none => return []
  | some (.mapping entries) => Node.entryContents entries
  | some v =>
    let _ ← v.content
    .error .fileParse

end TestDouble.Yaml
