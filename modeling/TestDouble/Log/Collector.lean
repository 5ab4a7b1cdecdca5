import TestDouble.Log.Record

/-!
# Collectors

A collector keeps records in the order they were logged and numbers them from zero. Clearing it
starts the numbers anew.
-/

namespace TestDouble

/-- The records logged so far. -/
structure Collector where
  records : List LogRecord
  /-- The place of the next record. -/
  nextSequence : Nat
  deriving DecidableEq

namespace Collector

/-- The collector without records. -/
def empty : Collector := ⟨[], 0⟩

instance : Inhabited Collector := ⟨empty⟩

/-- Logs an entry. -/
def emit (c : Collector) (moment : Nat) (e : LogEntry) : Collector :=
  ⟨c.records ++ [e.toRecord c.nextSequence moment], c.nextSequence + 1⟩

/-- How many records there are. -/
def count (c : Collector) : Nat := c.records.length

/-- The record logged last. -/
def latest? (c : Collector) : Option LogRecord := c.records.getLast?

end Collector
end TestDouble
