import TestDouble.Codec.Fields
import TestDouble.Mode
import TestDouble.TestError
import TestDouble.Text.Blank

/-!
# Configurations

How a harness and its recorder behave. Every field has a default, so a configuration may be given
in part. The separator must not be empty and must not contain white space; `Config.validate`
checks that, and reading a configuration from JSON does not.
-/

namespace TestDouble

/-- The configuration of a harness. -/
structure Config where
  /-- How calls that nobody asked for are treated. -/
  mode : Mode
  /-- Whether expectations that have reached their cap stop taking calls. -/
  saturateExpectations : Bool
  /-- Whether a harness is verified when it is dropped. -/
  verifyOnDrop : Bool
  /-- Whether the verification of a harness looks for calls that nobody accounts for. -/
  verifyNoOtherCalls : Bool
  /-- The least level of the events that a harness captures. -/
  captureLevel : LogLevel
  /-- The least level of the events that are printed. -/
  logLevel : LogLevel
  /-- What stands between a capability and a method in the name of an operation. -/
  surfaceSeparator : String
  deriving DecidableEq

namespace Config

/-- The configuration in which nothing is left to chance. -/
def strict : Config := ⟨.strict, true, true, true, .information, .debug, "::"⟩

/-- The same with the lenient mode. -/
def lenient : Config := { strict with mode := .lenient }

instance : Inhabited Config := ⟨strict⟩

/-- Whether a separator can be used. -/
def checkSeparator (separator : String) : Except ConfigError Unit :=
  if separator.isEmpty then .error (.message "surface_separator cannot be empty")
  else if Text.hasBlank separator then
    .error (.message ("surface_separator cannot contain whitespace: " ++ Text.quoted separator))
  else .ok ()

/-- Whether a configuration can be used. -/
def validate (c : Config) : Except ConfigError Unit := checkSeparator c.surfaceSeparator

/-- Configurations as JSON records. -/
def codec : Codec Config where
  encode c :=
    .object
      [("mode", Mode.codec.encode c.mode),
       ("saturate_expectations", .bool c.saturateExpectations),
       ("verify_on_drop", .bool c.verifyOnDrop),
       ("verify_no_other_calls", .bool c.verifyNoOtherCalls),
       ("capture_level", LogLevel.codec.encode c.captureLevel),
       ("log_level", LogLevel.codec.encode c.logLevel),
       ("surface_separator", .str c.surfaceSeparator)]
  decode v := do
    let found ← Fields.read "HarnessConfig"
      [.of .defaulted "mode" Mode.codec,
       .of .defaulted "saturate_expectations" .bool,
       .of .defaulted "verify_on_drop" .bool,
       .of .defaulted "verify_no_other_calls" .bool,
       .of .defaulted "capture_level" LogLevel.codec,
       .of .defaulted "log_level" LogLevel.codec,
       .of .defaulted "surface_separator" .text] v
    return {
      mode := ← Fields.getD Mode.codec "mode" found strict.mode
      saturateExpectations :=
        ← Fields.getD .bool "saturate_expectations" found strict.saturateExpectations
      verifyOnDrop := ← Fields.getD .bool "verify_on_drop" found strict.verifyOnDrop
      verifyNoOtherCalls :=
        ← Fields.getD .bool "verify_no_other_calls" found strict.verifyNoOtherCalls
      captureLevel := ← Fields.getD LogLevel.codec "capture_level" found strict.captureLevel
      logLevel := ← Fields.getD LogLevel.codec "log_level" found strict.logLevel
      surfaceSeparator :=
        ← Fields.getD .text "surface_separator" found strict.surfaceSeparator }

end Config
end TestDouble
