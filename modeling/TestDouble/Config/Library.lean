import TestDouble.Config.LoadError

/-!
# Where settings come from

A configuration reads neither files nor variables itself. It asks a `SettingsLibrary` for that, which
collects named settings from sources, lays one source over another and reads what is set as a value
of a type. What a configuration makes of a library is the same for all of them
(`TestDouble.Config.Build`). The one that runs is in `TestDouble.Config.Load`.
-/

namespace TestDouble

/-- The files of a directory: their names and what is in them. -/
abbrev Directory : Type := List (String × String)

/-- The environment variables: their names and values. -/
abbrev Environment : Type := List (String × String)

/-- Which variables count, and how their names are read. -/
structure VariableNames where
  /-- What the names begin with. -/
  start : String
  /-- What stands between that and the name of a setting. -/
  joint : String
  /-- What stands between the name of a setting and that of a setting inside it. -/
  nesting : String

/-- What a configuration needs of a library that collects settings. -/
structure SettingsLibrary where
  /-- What is set: a plain value, a list or a table, with whatever else the library keeps of it. -/
  Value : Type
  /-- What the file that a path means says. If no file is required, none says nothing. -/
  file (required : Bool) (d : Directory) (path : String) : Except LoadError (List (String × Value))
  /-- What the variables say. -/
  environment (names : VariableNames) (e : Environment) : List (String × Value)
  /-- Lays a source over what the sources before it have set. -/
  overlay (target source : List (String × Value)) : List (String × Value)
  /-- Reads what is set under a name as a truth value. -/
  boolOf (name : String) (v : Value) : Except ConfigError Bool
  /-- Reads what is set under a name as a text. -/
  textOf (name : String) (v : Value) : Except ConfigError String
  /-- Reads what is set as one of several choices, each of which may have several names. -/
  choiceOf {α : Type} (type : String) (names : List (String × α)) (v : Value) : Except ConfigError α

/-- What a library has found set, by name. -/
abbrev SettingsLibrary.Settings (L : SettingsLibrary) : Type := List (String × L.Value)

end TestDouble
