import TestDouble.Codec

/-!
# Levels

How grave a log record is. Events know one level less: a critical message is emitted as an error
event, so a level that went through an event comes back as at most `error`.
-/

namespace TestDouble

/-- How grave an event is. -/
inductive EventLevel where
  | trace
  | debug
  | info
  | warn
  | error
  deriving DecidableEq, Inhabited

namespace EventLevel

/-- The name of an event level. -/
def name : EventLevel → String
  | trace => "TRACE"
  | debug => "DEBUG"
  | info => "INFO"
  | warn => "WARN"
  | error => "ERROR"

/-- The name of the filter that lets an event level and everything graver through. -/
def filterName : EventLevel → String
  | trace => "trace"
  | debug => "debug"
  | info => "info"
  | warn => "warn"
  | error => "error"

end EventLevel

/-- How grave a log record is. -/
inductive LogLevel where
  | trace
  | debug
  | information
  | warning
  | error
  | critical
  deriving DecidableEq, Inhabited

namespace LogLevel

/-- The place of a level, from the least grave to the gravest. -/
def rank : LogLevel → Nat
  | trace => 0
  | debug => 1
  | information => 2
  | warning => 3
  | error => 4
  | critical => 5

instance : LT LogLevel := ⟨fun a b => a.rank < b.rank⟩

instance : LE LogLevel := ⟨fun a b => a.rank ≤ b.rank⟩

instance (a b : LogLevel) : Decidable (a < b) := inferInstanceAs (Decidable (a.rank < b.rank))

instance (a b : LogLevel) : Decidable (a ≤ b) := inferInstanceAs (Decidable (a.rank ≤ b.rank))

/-- Levels of the same rank are the same. -/
theorem rank_injective {a b : LogLevel} (h : a.rank = b.rank) : a = b := by
  cases a <;> cases b <;> simp_all [rank]

/-- The name of a level. -/
def text : LogLevel → String
  | trace => "trace"
  | debug => "debug"
  | information => "information"
  | warning => "warning"
  | error => "error"
  | critical => "critical"

/-- The level of the events that carry messages of a level. -/
def toEvent : LogLevel → EventLevel
  | trace => .trace
  | debug => .debug
  | information => .info
  | warning => .warn
  | error | critical => .error

/-- The level of the records made from events of a level. -/
def ofEvent : EventLevel → LogLevel
  | .trace => trace
  | .debug => debug
  | .info => information
  | .warn => warning
  | .error => error

/-- Only the gravest level does not come back from an event. -/
theorem ofEvent_toEvent (l : LogLevel) :
    ofEvent l.toEvent = if l = critical then error else l := by
  cases l <;> rfl

/-- The names that a level can be written by, in the order an error lists them. -/
def names : List (String × LogLevel) :=
  [("trace", trace), ("debug", debug), ("info", information), ("information", information),
   ("warn", warning), ("warning", warning), ("error", error), ("critical", critical)]

end LogLevel
end TestDouble
