import TestDouble.Service.NotificationHandler
import TestDouble.Service.OrderProcessor
import TestDouble.Service.UserService

/-!
# Scenarios

A scenario is a complete test: it makes a harness, says what it expects, exercises a subject and
checks what came of it. `Scenario.run` plays one while everything that the library tells about its
work is listened to, and gives the outcome with what was heard.
-/

namespace TestDouble

/-- A test with a harness of its own. -/
structure Scenario where
  config : Config
  body : BenchM Unit

namespace Scenario

/-- A test with a strict harness. -/
def strict (body : BenchM Unit) : Scenario := ⟨.strict, body⟩

/-- Gives up unless a condition holds. -/
def check (condition : Bool) : BenchM Unit :=
  if condition then return () else Bench.crash "assertion failed"

/-- The value of an answer that must not be an error. -/
def require {α : Type} : Except TestError α → BenchM α
  | .ok a => return a
  | .error e => Bench.crash e.message

/-- The error of an answer that must be one. -/
def requireError {α : Type} : Except TestError α → BenchM TestError
  | .ok _ => Bench.crash "an error was expected"
  | .error e => return e

/-- Registers an expectation, which must be accepted. -/
def expect (capability method : String) (parts : List ExpectationBuilder.Part) : BenchM Unit := do
  let s ← Bench.surface capability
  let _ ← require (← Bench.perform ((s.expect method).addAll parts).register)

/-- Verifies the harness, which must succeed. -/
def verified : BenchM Unit := do require (← Bench.verify)

/-- Matches exactly the given arguments. -/
def withArguments (arguments : List Json) : ExpectationBuilder.Part :=
  .arguments (.value (.arr arguments))

/-- Answers with a value. -/
def returning (v : Json) : ExpectationBuilder.Part := .returns (.value v)

/-- Plays a test and ends its harness, which is not verified any more if the test gave up. -/
def play (s : Scenario) (journal : Journal) : Except Stop Unit × Journal :=
  match s.body (Bench.start s.config journal) with
  | (.error stop, bench) => (.error stop, bench.journal)
  | (.ok (), bench) =>
    let (result, bench) := Bench.drop bench
    (result, bench.journal)

/-- Plays a test and gives its outcome and the records of all that was heard. -/
def run (s : Scenario) : Except Stop Unit × Snapshot :=
  let (listener, journal) := Journal.empty.openCollector
  let (_, journal) := journal.enter [⟨.trace, listener⟩]
  let (result, journal) := s.play journal
  (result, (journal.collector listener).snapshot)

end Scenario
end TestDouble
