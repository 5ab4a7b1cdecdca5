import TestDouble.Config
import TestDouble.Log.Journal
import TestDouble.Log.Snapshot
import TestDouble.Recorder
import TestDouble.Surface

/-!
# Harnesses

A harness holds a recorder and a collector for one test and verifies the recorder at the end. It
lives on a `Bench`, together with the journal of the test; what happens on the bench is a `BenchM`
action, which may stop before its end, but whose effects stay.

`Bench.verify` remembers how many calls and expectations there were. `Bench.drop` verifies once
more unless these numbers are still the same, and a failure then is a crash.
-/

namespace TestDouble

/-- The state of a test: a recorder, a collector and the journal. -/
structure Bench where
  config : Config
  book : Book
  /-- The number of the collector of the harness. -/
  collector : Nat
  journal : Journal
  /-- The numbers of calls and of expectations at the last verification. -/
  verifiedAt : Option (Nat × Nat)
  /-- The last error shown by a program. -/
  reported : Option TestError

/-- What happens on a bench. -/
abbrev BenchM : Type → Type := ExceptT Stop (StateM Bench)

namespace Bench

/-- The handle on the recorder. -/
def handle (b : Bench) : Handle :=
  ⟨b.config.mode, b.config.saturateExpectations, b.config.surfaceSeparator⟩

/-- Runs a program on the recorder; whoever listens hears what it tells. -/
def perform {α : Type} (p : Recording α) : BenchM α := fun b =>
  let (result, d) := Recorder.run b.config.mode p ⟨b.book, [], b.reported⟩
  (result,
    { b with
      book := d.book
      reported := d.reported
      journal := b.journal.hearAll (d.diagnostics.map Diagnostic.toEvent) })

/-- Changes the journal. -/
def onJournal (f : Journal → Journal) : BenchM Unit := fun b =>
  (.ok (), { b with journal := f b.journal })

/-- Gives up. -/
def crash {α : Type} (message : String) : BenchM α := throw (.crashed ⟨message⟩)

/-- The stand-in for a collaborator. -/
def surface (capability : String) : BenchM Surface := do
  return (← get).handle.surface capability

/-- What the collector of the harness holds. -/
def snapshot : BenchM Snapshot := do
  let b ← get
  return (b.journal.collector b.collector).snapshot

/-- A logger of a category that writes into the collector of the harness. -/
def logger (category : String) : BenchM Logger := do
  return .collecting category (← get).collector

/-- Logs a message. -/
def log (l : Logger) (level : LogLevel) (message : String) (error : Option Fault) : BenchM Unit :=
  onJournal fun j => j.log l level message error

/-- Lets the collector of the harness listen to the events of the configured level and graver
ones, until the scope ends. -/
def captureEvents : BenchM Scope := fun b =>
  let (scope, journal) := b.journal.enter [⟨b.config.captureLevel, b.collector⟩]
  (.ok scope, { b with journal })

/-- Ends a scope. -/
def leave (s : Scope) : BenchM Unit := onJournal fun j => j.leave s

/-- The numbers of calls and of expectations. -/
def activity (b : Bench) : Nat × Nat := (b.book.calls.length, b.book.expectations.length)

/-- The failures of a verdict. -/
def verdictFailures : Except TestError Unit → List TestError
  | .ok () => []
  | .error e => e.flatten

/-- Checks the expectations and, if the configuration asks for it, the other calls, and folds all
failures into one verdict. -/
def verify : BenchM (Except TestError Unit) := do
  modify fun b => { b with verifiedAt := some b.activity }
  let handle := (← get).handle
  let expected ← perform handle.verifyAll
  let others ←
    if (← get).config.verifyNoOtherCalls then perform handle.verifyNoOtherCalls
    else pure (.ok ())
  return TestError.collect (verdictFailures expected ++ verdictFailures others)

/-- Verifies the harness at its end, unless that is not wanted or nothing has been added since it
was verified last. A failure is a crash. -/
def drop : BenchM Unit := do
  let b ← get
  if b.config.verifyOnDrop && b.verifiedAt != some b.activity then
    match ← verify with
    | .ok () => return
    | .error e => crash ("Test harness verification failed: " ++ e.message)

/-- A bench without a harness: a recorder and a collector of its own. -/
def plain (config : Config) (journal : Journal) : Bench :=
  let (collector, journal) := journal.openCollector
  ⟨config, .empty, collector, journal, none, none⟩

/-- A new harness; whoever listens hears of it. -/
def start (config : Config) (journal : Journal) : Bench :=
  plain config <| journal.hear
    (Diagnostic.harnessCreated config.mode config.saturateExpectations).toEvent

end Bench
end TestDouble
