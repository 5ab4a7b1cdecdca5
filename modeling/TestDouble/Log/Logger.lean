import TestDouble.Diagnostic
import TestDouble.Log.Record

/-!
# Loggers

Subjects log through a logger of a category. A collecting logger makes an entry for a collector
out of each message; a forwarding logger makes an event, which whoever listens may collect. An
event has no critical level, so that level comes out as an error.
-/

namespace TestDouble

/-- The entry that a collecting logger makes of a message. -/
def loggedEntry (category : String) (level : LogLevel) (message : String)
    (error : Option Fault) : LogEntry :=
  let entry := (LogEntry.ofMessage level message).withCategory category
  match error with
  | some error => entry.withError error
  | none => entry

/-- The event that a forwarding logger makes of a message. -/
def loggedEvent (category : String) (level : LogLevel) (message : String)
    (error : Option Fault) : Event where
  level := level.toEvent
  target := "logger"
  fields :=
    ("category", .text category) ::
      (match error with
        | some error => [("error", .fault error)]
        | none => []) ++ [("message", .shown message)]

/-- What is logged through: a collector by its number, or events. -/
inductive Logger where
  | collecting (category : String) (collector : Nat)
  | forwarding (category : String)
  deriving DecidableEq

end TestDouble
