import TestDouble.Config
import TestDouble.Config.Library

/-!
# Loading configurations

A configuration is loaded from a file and from environment variables, which are laid over the file.
What neither of them says has its default; what is no field of a configuration does not matter. At
the end the configuration is validated. Files and variables are read by a library that collects
settings, whichever it is.
-/

namespace TestDouble

namespace Config

/-- The name of the file that is looked for if none is named, without its extension. -/
def fileName : String := "call_harness"

/-- The variables that count, such as `CALL_HARNESS_SATURATE_EXPECTATIONS`. -/
def variableNames : VariableNames := ⟨"CALL_HARNESS", "_", "__"⟩

/-- The value of a field: what is set, read by `read`, or else the default. -/
def fieldOf {V α : Type} (settings : List (String × V)) (name : String)
    (read : V → Except ConfigError α) (default : α) : Except ConfigError α :=
  match settings.lookup name with
  | some v => read v
  | none => .ok default

variable (L : SettingsLibrary)

/-- The configuration that settings describe. -/
def ofSettings (s : L.Settings) : Except ConfigError Config := do
  let flag := fun name default => fieldOf s name (L.boolOf name) default
  let mode := L.choiceOf "VerificationMode" Mode.names
  let level := L.choiceOf "LogLevel" LogLevel.names
  return {
    mode := ← fieldOf s "mode" mode strict.mode
    saturateExpectations := ← flag "saturate_expectations" strict.saturateExpectations
    verifyOnDrop := ← flag "verify_on_drop" strict.verifyOnDrop
    verifyNoOtherCalls := ← flag "verify_no_other_calls" strict.verifyNoOtherCalls
    captureLevel := ← fieldOf s "capture_level" level strict.captureLevel
    logLevel := ← fieldOf s "log_level" level strict.logLevel
    surfaceSeparator :=
      ← fieldOf s "surface_separator" (L.textOf "surface_separator") strict.surfaceSeparator }

/-- What is set by a file with the environment laid over it. -/
def layers (file : L.Settings) (e : Environment) : L.Settings :=
  L.overlay (L.overlay [] file) (L.environment variableNames e)

/-- The valid configuration that a file and the environment describe together. -/
def build (file : L.Settings) (e : Environment) : Except ConfigError Config := do
  let c ← ofSettings L (layers L file e)
  c.validate
  return c

/-- The valid configuration that what a file says, if that can be had, and the environment describe
together. -/
def buildFrom (file : Except LoadError L.Settings) (e : Environment) : Except LoadError Config := do
  match build L (← file) e with
  | .ok c => return c
  | .error reason => .error (.refused reason)

end Config

namespace SettingsLibrary

/-- Loads a configuration from a file and the environment. -/
def loadFile (L : SettingsLibrary) (d : Directory) (e : Environment) (path : String) :
    Except LoadError Config :=
  Config.buildFrom L (L.file true d path) e

/-- Loads a configuration from the file that is looked for if none is named, which may be missing,
and the environment. -/
def load (L : SettingsLibrary) (d : Directory) (e : Environment) : Except LoadError Config :=
  Config.buildFrom L (L.file false d Config.fileName) e

end SettingsLibrary
end TestDouble
