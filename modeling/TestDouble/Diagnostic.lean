import TestDouble.Fault
import TestDouble.Mode

/-!
# Events and the library's own diagnostics

An `Event` has a level, a target and named fields; who listens decides what becomes of it. A
`Diagnostic` is something that the library itself tells about its work, and `Diagnostic.toEvent`
is the event that tells it.
-/

namespace TestDouble

/-- The value of a field of an event. -/
inductive FieldValue where
  | text (s : String)
  /-- An error with its causes. -/
  | fault (f : Fault)
  /-- Any other value, by the text that shows it. -/
  | shown (s : String)
  deriving DecidableEq

/-- The text of a field; of an error only the message. -/
def FieldValue.toText : FieldValue → String
  | text s | shown s => s
  | fault f => f.message

/-- Something that has happened. -/
structure Event where
  level : EventLevel
  target : String
  fields : List (String × FieldValue)

/-- What the library tells about its work. -/
inductive Diagnostic where
  | harnessCreated (mode : Mode) (saturate : Bool)
  | expectationShadowed (operation existing registered : String)
  | expectationRegistered (operation matcher times : String) (id : Nat)
  | callRecorded (operation : String) (sequence : Nat) (matched : Option Nat)
  | forbiddenCall (operation : String) (sequence : Nat)
  | unmatchedCall (operation : String) (sequence : Nat)
  | expectationsVerified (expectations failures : Nat)
  | otherCallsVerified (calls failures : Nat)
  deriving DecidableEq

namespace Diagnostic

/-- The id of an expectation as text. -/
def idText (id : Nat) : String := "#" ++ toString id

/-- The expectation that took a call, as a field shows it. -/
def matchedText : Option Nat → String
  | some id => "Some(ExpectationId(" ++ toString id ++ "))"
  | none => "None"

/-- An event of a harness. -/
def ofHarness (level : EventLevel) (message : String) (fields : List (String × String)) : Event :=
  ⟨level, "call_harness::test_harness",
    fields.map (fun (k, v) => (k, .shown v)) ++ [("message", .shown message)]⟩

/-- An event of a recorder. -/
def ofRecorder (level : EventLevel) (message : String) (fields : List (String × String)) :
    Event :=
  ⟨level, "call_harness_recorder::call_recorder",
    fields.map (fun (k, v) => (k, .shown v)) ++ [("message", .shown message)]⟩

/-- The event that tells a diagnostic. -/
def toEvent : Diagnostic → Event
  | harnessCreated mode saturate =>
    ofHarness .debug "Creating test harness"
      [("mode", mode.shown), ("saturate", if saturate then "true" else "false")]
  | expectationShadowed operation existing registered =>
    ofRecorder .warn "Expectation overlaps an earlier one and loses every shared call"
      [("operation", operation), ("existing", existing), ("registered", registered)]
  | expectationRegistered operation matcher times id =>
    ofRecorder .debug "Registered expectation"
      [("operation", operation), ("matcher", matcher), ("times", times), ("id", idText id)]
  | callRecorded operation sequence matched =>
    ofRecorder .trace "Recorded call"
      [("operation", operation), ("sequence", toString sequence),
       ("matched", matchedText matched)]
  | forbiddenCall operation sequence =>
    ofRecorder .warn "Call hit an expectation that forbids it"
      [("operation", operation), ("sequence", toString sequence)]
  | unmatchedCall operation sequence =>
    ofRecorder .warn "No expectation matched, returning empty value"
      [("operation", operation), ("sequence", toString sequence)]
  | expectationsVerified expectations failures =>
    ofRecorder .debug "Verified expectations"
      [("expectations", toString expectations), ("failures", toString failures)]
  | otherCallsVerified calls failures =>
    ofRecorder .debug "Verified no other calls"
      [("calls", toString calls), ("failures", toString failures)]

end Diagnostic
end TestDouble
