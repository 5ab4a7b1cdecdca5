import TestDouble.Config.Directory
import TestDouble.Config.Build

/-!
# The library that runs

One library that collects settings, for the kinds of configuration file that are documented. Names of
variables are read without regard to case, and what is set by a variable is its text. A truth value
may be given by a number or by a word, a text by whatever can be written out, and a choice by its
name in any case.
-/

namespace TestDouble

namespace Environment

/-- Characters with a dot in place of each `nesting`. The first ones that are `skipped` belong to one
that has got its dot. -/
def dotted (nesting : List Char) : (skipped : Nat) → List Char → List Char
  | _, [] => []
  | skipped + 1, _ :: rest => dotted nesting skipped rest
  | 0, c :: rest =>
    if !nesting.isEmpty && nesting.isPrefixOf (c :: rest) then
      '.' :: dotted nesting (nesting.length - 1) rest
    else c :: dotted nesting 0 rest

/-- What the names of the variables that count begin with. -/
def beginning (names : VariableNames) : List Char :=
  (Text.lower (names.start ++ names.joint)).toList

/-- What a variable sets if it is text. -/
def given (value : String) : Setting := .value (some "the environment") (.text value)

/-- The setting that a variable gives, if it counts. -/
def setting? (names : VariableNames) (name value : String) : Option (String × Setting) :=
  let name := (Text.lower name).toList
  if (beginning names).isPrefixOf name then
    some (String.ofList
      (dotted names.nesting.toList 0 (name.drop (beginning names).length)), given value)
  else none

/-- The settings that the variables give. -/
def settings (names : VariableNames) (e : Environment) : Settings :=
  e.filterMap fun (name, value) => setting? names name value

end Environment

namespace Setting

/-- What was found where something else was expected. -/
def unexpected (name found expected : String) (origin : Option String) : ConfigError :=
  .type ("invalid type: " ++ found ++ ", expected " ++ expected ++ " for key `" ++ name ++ "`"
    ++ (match origin with
      | some origin => " in " ++ origin
      | none => ""))

/-- Reads a truth value. Numbers other than zero are true, and some words are true or false. -/
def boolOf (name : String) (s : Setting) : Except ConfigError Bool :=
  let refuse := fun found origin => .error (unexpected name found "a boolean" origin)
  match s with
  | .value _ (.bool b) => .ok b
  | .value _ (.int n) => .ok (n != 0)
  | .value _ (.float x) => .ok (x.order != 0)
  | .value _ (.notFinite _) => .ok true
  | .value origin (.text s) =>
    let word := Text.lower s
    if ["1", "true", "on", "yes"].contains word then .ok true
    else if ["0", "false", "off", "no"].contains word then .ok false
    else refuse ("string " ++ Text.quoted word) origin
  | .value origin .null => refuse "unit value" origin
  | .list origin _ => refuse "sequence" origin
  | .table _ => refuse "map" none

/-- Reads a text; numbers and truth values are written out. -/
def textOf (name : String) (s : Setting) : Except ConfigError String :=
  let refuse := fun found origin => .error (unexpected name found "a string" origin)
  match s with
  | .value _ (.text s) => .ok s
  | .value _ (.bool b) => .ok (if b then "true" else "false")
  | .value _ (.int n) => .ok (toString n)
  | .value _ (.float x) => .ok (x.write .plain)
  | .value _ (.notFinite text) => .ok text
  | .value origin .null => refuse "unit value" origin
  | .list origin _ => refuse "sequence" origin
  | .table _ => refuse "map" none

/-- Finds a choice by its name, in whatever case. -/
def choice {α : Type} (type : String) (names : List (String × α)) (name : String) :
    Except ConfigError α :=
  match names.lookup (Text.lower name) with
  | some x => .ok x
  | none =>
    .error (.message ("enum " ++ type ++ " does not have variant constructor " ++ name))

/-- Reads a choice: its name, or a table with its name for the only entry. -/
def choiceOf {α : Type} (type : String) (names : List (String × α)) :
    Setting → Except ConfigError α
  | .value _ (.text s) => choice type names s
  | .table [(name, _)] => choice type names name
  | _ =>
    .error (.message ("value of enum " ++ type
      ++ " should be represented by either string or table with exactly one key"))

/-- The library of these settings. -/
def library : SettingsLibrary where
  Value := Setting
  file required d path := d.settings required path
  environment := Environment.settings
  overlay := overlay
  boolOf := boolOf
  textOf := textOf
  choiceOf := choiceOf

end Setting

namespace Config

/-- Loads a configuration from a file and the environment. -/
def loadFile (d : Directory) (e : Environment) (path : String) : Except LoadError Config :=
  Setting.library.loadFile d e path

/-- Loads a configuration from the file that is looked for if none is named, and the environment. -/
def load (d : Directory) (e : Environment) : Except LoadError Config := Setting.library.load d e

end Config
end TestDouble
