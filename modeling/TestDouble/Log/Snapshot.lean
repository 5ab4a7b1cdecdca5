import TestDouble.Log.Collector
import TestDouble.Text.Search

/-!
# Snapshots

A snapshot holds the records of a collector as they were at one time. Narrowing a snapshot keeps
some of its records, unchanged and in order; nothing done to a snapshot is seen by the collector.

A `Query` is a chain of narrowings with a question at its end.
-/

namespace TestDouble

/-- Records as they were at one time. -/
structure Snapshot where
  records : List LogRecord
  deriving DecidableEq

namespace Snapshot

instance : Inhabited Snapshot := ⟨⟨[]⟩⟩

/-- The records that pass a test. -/
def filter (s : Snapshot) (test : LogRecord → Bool) : Snapshot := ⟨s.records.filter test⟩

/-- The records of a level or a graver one. -/
def atLeast (s : Snapshot) (level : LogLevel) : Snapshot := s.filter fun r => level ≤ r.level

/-- The records of a level. -/
def withLevel (s : Snapshot) (level : LogLevel) : Snapshot := s.filter fun r => r.level = level

/-- The records whose message contains a text. -/
def containing (s : Snapshot) (text : String) : Snapshot :=
  s.filter fun r => Text.contains r.message text

/-- The records of a category. -/
def withCategory (s : Snapshot) (category : String) : Snapshot :=
  s.filter fun r => r.category == some category

/-- Whether some record passes a test. -/
def any (s : Snapshot) (test : LogRecord → Bool) : Bool := s.records.any test

/-- The first record that passes a test. -/
def firstWhere? (s : Snapshot) (test : LogRecord → Bool) : Option LogRecord :=
  s.records.find? test

/-- The last record. -/
def latest? (s : Snapshot) : Option LogRecord := s.records.getLast?

/-- The messages of the records. -/
def messages (s : Snapshot) : List String := s.records.map (·.message)

/-- How many records there are. -/
def length (s : Snapshot) : Nat := s.records.length

end Snapshot

/-- What a collector holds now. -/
def Collector.snapshot (c : Collector) : Snapshot := ⟨c.records⟩

/-- A test of one record. -/
inductive RecordTest where
  | always
  | hasError
  /-- The error or one of its causes contains a text. -/
  | errorContains (text : String)
  | messageIs (text : String)
  | levelIs (level : LogLevel)
  | below (level : LogLevel)
  | sequenceIs (n : Nat)
  /-- A field has a text, or there is no such field. -/
  | field (name : String) (text : Option String)

/-- Whether a record passes a test. -/
def RecordTest.holds (t : RecordTest) (r : LogRecord) : Bool :=
  match t with
  | always => true
  | hasError => r.hasError
  | errorContains text => r.error.any fun e => e.mentions text
  | messageIs text => r.message == text
  | levelIs level => r.level = level
  | below level => r.level < level
  | sequenceIs n => r.sequence == n
  | field name text => r.field? name == text

/-- A way to keep some of the records of a snapshot. -/
inductive Narrowing where
  | atLeast (level : LogLevel)
  | withLevel (level : LogLevel)
  | containing (text : String)
  | withCategory (category : String)
  | filter (test : RecordTest)

/-- Keeps some of the records of a snapshot. -/
def Narrowing.apply (s : Snapshot) : Narrowing → Snapshot
  | atLeast level => s.atLeast level
  | withLevel level => s.withLevel level
  | containing text => s.containing text
  | withCategory category => s.withCategory category
  | filter test => s.filter test.holds

/-- What is asked of the records that are left. -/
inductive Question where
  | any (test : RecordTest)
  | firstWhere (test : RecordTest)
  | latest
  | messages
  | length
  | isEmpty
  | sequences
  | texts
  | records

/-- A chain of narrowings with a question at its end. -/
structure Query where
  narrowings : List Narrowing
  question : Question

/-- The records that the question of a query is about. -/
def Query.narrow (q : Query) (s : Snapshot) : Snapshot := q.narrowings.foldl Narrowing.apply s

end TestDouble
