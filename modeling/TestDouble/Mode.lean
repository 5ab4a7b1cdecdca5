import TestDouble.Codec.Named
import TestDouble.LogLevel

/-!
# Modes

What becomes of a call that no expectation accepts, and of a call that an expectation forbids: a
strict recorder fails it at once, a lenient one answers it and leaves the verdict to the
verification at the end.
-/

namespace TestDouble

/-- How a recorder treats calls that nobody asked for. -/
inductive Mode where
  | strict
  | lenient
  deriving DecidableEq

namespace Mode

instance : Inhabited Mode := ⟨strict⟩

/-- Whether calls that nobody asked for fail at once. -/
def isStrict : Mode → Bool
  | strict => true
  | lenient => false

/-- The name of a mode. -/
def text : Mode → String
  | strict => "strict"
  | lenient => "lenient"

/-- The name of a mode among the fields of an event. -/
def shown : Mode → String
  | strict => "Strict"
  | lenient => "Lenient"

/-- The names that a mode can be written by. -/
def names : List (String × Mode) := [("strict", strict), ("lenient", lenient)]

/-- Modes are written by name. -/
def codec : Codec Mode := .named text names

end Mode

/-- Levels are written by name, two of them also by a shorter one. -/
def LogLevel.codec : Codec LogLevel := .named LogLevel.text LogLevel.names

end TestDouble
