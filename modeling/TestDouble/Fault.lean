import TestDouble.Text.Search
import TestDouble.Text.Quoted

/-!
# Faults

A fault is an error as the world outside sees it: a message and the messages of what caused it,
outermost first. Log records keep faults, and expectations can be told to fail with one.
-/

namespace TestDouble

/-- An error message with the messages of its causes, outermost first. -/
structure Fault where
  message : String
  causes : List String
  deriving DecidableEq

namespace Fault

/-- A fault without causes. -/
def ofMessage (message : String) : Fault := ⟨message, []⟩

/-- The message and the causes in one line. -/
def text (f : Fault) : String := ": ".intercalate (f.message :: f.causes)

/-- Whether a text occurs in the message or in one of the causes. -/
def mentions (f : Fault) (text : String) : Bool :=
  Text.contains f.message text || f.causes.any fun cause => Text.contains cause text

end Fault

/-- What an expectation fails with. -/
inductive Failure where
  /-- A bare message. -/
  | message (text : String)
  /-- An error that may have causes. -/
  | fault (f : Fault)
  deriving DecidableEq

namespace Failure

/-- The text of a failure. -/
def text : Failure → String
  | message text => text
  | fault f => f.message

/-- What caused a failure. -/
def causes : Failure → List String
  | message _ => []
  | fault f => f.causes

/-- The text that shows a bare message for what it is. -/
def shown? : Failure → Option String
  | message text => some ("MessageError(" ++ Text.quoted text ++ ")")
  | fault _ => none

end Failure
end TestDouble
