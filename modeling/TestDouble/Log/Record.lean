import TestDouble.Fault
import TestDouble.LogLevel
import TestDouble.Table

/-!
# Log records

A `LogEntry` is what somebody wants to have logged. A collector turns it into a `LogRecord` by
giving it its place among the records and the moment it was logged at. Records are never changed
afterwards.
-/

namespace TestDouble

/-- What is to be logged. -/
structure LogEntry where
  level : LogLevel
  message : String
  error : Option Fault
  category : Option String
  /-- Further named texts. -/
  fields : Table String
  deriving DecidableEq

namespace LogEntry

/-- An entry that says nothing but a message. -/
def ofMessage (level : LogLevel) (message : String) : LogEntry :=
  ⟨level, message, none, none, .empty⟩

instance : Inhabited LogEntry := ⟨ofMessage .trace ""⟩

/-- The entry with an error. -/
def withError (e : LogEntry) (error : Fault) : LogEntry := { e with error := some error }

/-- The entry with an error or without any. -/
def withErrorDetail (e : LogEntry) (error : Option Fault) : LogEntry := { e with error }

/-- The entry in a category. -/
def withCategory (e : LogEntry) (category : String) : LogEntry :=
  { e with category := some category }

/-- The entry with one more field; it replaces an earlier one of the same name. -/
def withField (e : LogEntry) (name value : String) : LogEntry :=
  { e with fields := e.fields.put name value }

end LogEntry

/-- What has been logged. -/
structure LogRecord where
  /-- The place among the records of the collector. -/
  sequence : Nat
  level : LogLevel
  message : String
  error : Option Fault
  category : Option String
  fields : Table String
  /-- When it was logged; no two records of a test were logged at the same moment. -/
  moment : Nat
  deriving DecidableEq

/-- The record of an entry. -/
def LogEntry.toRecord (e : LogEntry) (sequence moment : Nat) : LogRecord :=
  ⟨sequence, e.level, e.message, e.error, e.category, e.fields, moment⟩

namespace LogRecord

/-- What the record was made of. -/
def entry (r : LogRecord) : LogEntry := ⟨r.level, r.message, r.error, r.category, r.fields⟩

/-- One of the further texts by name. -/
def field? (r : LogRecord) (name : String) : Option String := r.fields.get? name

/-- Whether an error was logged. -/
def hasError (r : LogRecord) : Bool := r.error.isSome

/-- The record in one line. -/
def text (r : LogRecord) : String :=
  "#" ++ toString r.sequence ++ " [" ++ r.level.text ++ "]"
    ++ (match r.category with
      | some category => " " ++ category ++ ":"
      | none => "")
    ++ " " ++ r.message
    ++ (match r.error with
      | some error => " (" ++ error.text ++ ")"
      | none => "")

end LogRecord
end TestDouble
