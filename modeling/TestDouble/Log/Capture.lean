import TestDouble.Diagnostic
import TestDouble.Log.Record

/-!
# Events as log entries

A layer lets through the events of its minimum level and graver ones and makes a log entry of
each. Three fields have a meaning: `message` is the message, `category` the category, in place of
the event's target, and `error` the error. All others become fields of the entry. Where a name
occurs more than once the last value counts. An error keeps its causes only in the field `error`.
-/

namespace TestDouble

/-- What the fields of an event have given so far. -/
structure FieldVisit where
  message : Option String
  category : Option String
  error : Option Fault
  fields : Table String
  deriving DecidableEq

namespace FieldVisit

/-- Nothing given. -/
def start : FieldVisit := ⟨none, none, none, .empty⟩

/-- The error that the field `error` gives. -/
def faultOf : FieldValue → Fault
  | .fault f => f
  | .text s | .shown s => .ofMessage s

/-- Takes one field into account. -/
def visit (v : FieldVisit) (name : String) (value : FieldValue) : FieldVisit :=
  if name = "message" then { v with message := some value.toText }
  else if name = "category" then { v with category := some value.toText }
  else if name = "error" then { v with error := some (faultOf value) }
  else { v with fields := v.fields.put name value.toText }

/-- Takes all fields into account, in order. -/
def ofFields (fields : List (String × FieldValue)) : FieldVisit :=
  fields.foldl (fun v (name, value) => v.visit name value) start

end FieldVisit

/-- The entry of an event. -/
def Event.entry (e : Event) : LogEntry :=
  let v := FieldVisit.ofFields e.fields
  { level := .ofEvent e.level
    message := v.message.getD ""
    error := v.error
    category := some (v.category.getD e.target)
    fields := v.fields }

/-- The entry of an event that is grave enough. -/
def Event.capture? (minimum : LogLevel) (e : Event) : Option LogEntry :=
  if minimum ≤ .ofEvent e.level then some e.entry else none

end TestDouble
