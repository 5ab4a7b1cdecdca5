import TestDouble.Config.Library
import TestDouble.Config.Setting
import TestDouble.Config.Toml
import TestDouble.Config.Yaml

/-!
# Directories with configuration files

A file is read by the extension of its name. A path that names no file is tried with each
extension; steps of a path that lead nowhere do not count. The kinds of file that are documented are
read. There are others that a library may read; a file of one of these is found, and then loading it
stops.
-/

namespace TestDouble

/-- The kinds of configuration file. -/
inductive FileKind where
  | toml
  | json
  | yaml
  /-- A kind that is not read here. -/
  | other
  deriving DecidableEq

namespace FileKind

/-- The extensions of configuration files. -/
def extensions : List (String × FileKind) :=
  [("toml", toml), ("json", json), ("yaml", yaml), ("yml", yaml), ("ini", other), ("ron", other),
    ("json5", other)]

/-- What follows the last dot of a file name; a dot at its beginning does not count. -/
def extensionOf (name : String) : String :=
  let reversed := name.toList.reverse.takeWhile (· != '/')
  match reversed.dropWhile (· != '.') with
  | '.' :: _ :: _ => String.ofList (reversed.takeWhile (· != '.')).reverse
  | _ => ""

/-- The kind of a file by its name. -/
def ofName? (name : String) : Option FileKind := extensions.lookup (extensionOf name)

/-- How many arrays and objects of a JSON file may be open at once. -/
def jsonLevels : Nat := 127

/-- Reads the text of a file. -/
def read (kind : FileKind) (text : String) : Except LoadError (List (String × Content)) :=
  match kind with
  | toml => LoadError.orFileParse (Toml.parse? text)
  | yaml => Yaml.parse text
  | json =>
    match Json.parseWithin? jsonLevels text with
    | some (.obj es) => .ok (Content.ofEntries es)
    | _ => .error .fileParse
  | other => .error .unread

end FileKind

namespace Directory

/-- Cuts a path into its steps. -/
def steps : List Char → List (List Char)
  | [] => [[]]
  | c :: rest =>
    if c = '/' then [] :: steps rest
    else
      match steps rest with
      | step :: more => (c :: step) :: more
      | [] => [[c]]

/-- Whether a step of a path leads somewhere. -/
def leadsSomewhere (step : List Char) : Bool := !step.isEmpty && step != ['.']

/-- The name of the file that a path means, and whether the path ends with it. The path begins in
the directory, and a step back leads to nothing that is known. -/
def name? (path : String) : Option (String × Bool) :=
  let steps := steps path.toList
  let leading := steps.filter leadsSomewhere
  if leading.isEmpty || leading.contains ['.', '.'] || path.toList.head? = some '/' then none
  else
    some (String.ofList (['/'].intercalate leading), (steps.getLast?.map leadsSomewhere).getD false)

/-- The file that a path means, with its kind: the one of that name, or the first one whose name
is the path with an extension. -/
def find? (d : Directory) (path : String) : Option (String × FileKind) := do
  let (name, endsWithName) ← name? path
  if endsWithName && (d.lookup name).isSome then
    return (name, ← FileKind.ofName? name)
  else
    FileKind.extensions.findSome? fun (extension, kind) =>
      let name := name ++ "." ++ extension
      if (d.lookup name).isSome then some (name, kind) else none

/-- The settings of the file that a path means. If none is required and there is none, there are no
settings. -/
def settings (required : Bool) (d : Directory) (path : String) : Except LoadError Settings := do
  match d.find? path with
  | none => if required then .error (.refused .foreign) else return []
  | some (name, kind) => return Setting.ofEntries name (← kind.read ((d.lookup name).getD ""))

end Directory
end TestDouble
