import TestDouble.Codec
import TestDouble.Fault
import TestDouble.Times

/-!
# What can go wrong in a test

`TestError` has a case for every reason why a call, a registration, a verification or a
configuration fails. Several failures of one verification are folded into one error by `collect`
and told apart again by `failures`.
-/

namespace TestDouble

/-- Why a configuration could not be had. -/
inductive ConfigError where
  /-- A rule about values is broken. -/
  | message (text : String)
  /-- A value has another type than asked for. -/
  | type (text : String)
  | notFound (text : String)
  /-- A file cannot be read as what it should be. -/
  | fileParse
  /-- A file is missing, or its kind is unknown. -/
  | foreign
  deriving DecidableEq

namespace ConfigError

/-- The name of the kind of error. -/
def kind : ConfigError → String
  | message _ => "Message"
  | type _ => "Type"
  | notFound _ => "NotFound"
  | fileParse => "FileParse"
  | foreign => "Foreign"

/-- The text of the error, where it has one of its own. -/
def text? : ConfigError → Option String
  | message text | type text | notFound text => some text
  | fileParse | foreign => none

/-- A text for every error. -/
def text (e : ConfigError) : String :=
  e.text?.getD (if e = fileParse then "malformed configuration file" else "no such file")

end ConfigError

/-- A failure of a call, a registration, a verification or a configuration. -/
inductive TestError where
  /-- A call that no expectation accepts. -/
  | unexpectedCall (operation : String) (arguments : List Json)
  /-- A count of calls outside the range asked for. -/
  | unsatisfied (operation matcher : String) (expected : Times) (actual : Nat)
  /-- A registration that an earlier one deprives of all the calls they share. -/
  | ambiguous (operation existing registered : String)
  /-- The failure that an expectation was told to give. -/
  | raised (failure : Failure)
  /-- Arguments or a return value that cannot be made JSON. -/
  | encoding (operation : String) (reason : DecodeError)
  /-- A return value of another type than the caller asked for. -/
  | decoding (operation : String) (reason : DecodeError)
  /-- Several failures of one verification. -/
  | verification (failures : List TestError)
  | config (reason : ConfigError)

namespace TestError

instance : Inhabited TestError := ⟨verification []⟩

mutual

/-- The text of an error. -/
def message : TestError → String
  | unexpectedCall operation arguments =>
    "Unexpected call: " ++ operation ++ "(" ++ Json.argumentsText arguments ++ ")"
  | unsatisfied operation matcher expected actual =>
    "Unsatisfied expectation: " ++ operation ++ "(" ++ matcher ++ ") expected " ++ expected.text
      ++ ", was called " ++ toString actual ++ " time(s)"
  | ambiguous operation existing registered =>
    "Ambiguous expectation for " ++ operation ++ ": (" ++ registered ++ ") overlaps earlier ("
      ++ existing ++ ") and loses every shared call"
  | raised failure => failure.text
  | encoding operation reason =>
    "Failed to encode value for " ++ operation ++ ": " ++ reason.message
  | decoding operation reason =>
    "Failed to decode return value of " ++ operation ++ ": " ++ reason.message
  | verification failures =>
    toString failures.length ++ " verification failures:\n" ++ "\n".intercalate (lines failures)
  | config reason => "Configuration error: " ++ reason.text

/-- One line for each of several errors. -/
def lines : List TestError → List String
  | [] => []
  | e :: rest => ("  - " ++ e.message) :: lines rest

end

mutual

/-- The innermost errors, in order. -/
def failures : TestError → List TestError
  | verification es => allFailures es
  | e => [e]

/-- The innermost errors of several, in order. -/
def allFailures : List TestError → List TestError
  | [] => []
  | e :: rest => e.failures ++ allFailures rest

end

/-- The errors directly inside, or the error itself. -/
def flatten : TestError → List TestError
  | verification es => es
  | e => [e]

/-- The verdict over several failures: success if there is none, the failure itself if there is
one. -/
def collect : List TestError → Except TestError Unit
  | [] => .ok ()
  | [e] => .error e
  | es => .error (verification es)

/-- What caused an error. -/
def causes : TestError → List String
  | encoding _ reason | decoding _ reason => [reason.message]
  | config reason => [reason.text]
  | _ => []

/-- An error as a log keeps it. -/
def toFault (e : TestError) : Fault := ⟨e.message, e.causes⟩

theorem collect_eq_ok_iff {es : List TestError} : collect es = .ok () ↔ es = [] := by
  match es with
  | [] => simp [collect]
  | [_] => simp [collect]
  | _ :: _ :: _ => simp [collect]

end TestError
end TestDouble
