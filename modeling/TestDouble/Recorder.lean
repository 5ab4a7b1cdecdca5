import TestDouble.Diagnostic
import TestDouble.Recorder.Book

/-!
# Recorders

`serve` answers one request, `Program.run` a whole program. Both work on a `Desk`: the book of the
recorder, the diagnostics told so far and the last error shown.

A call is recorded and counted before its outcome runs, so a callback finds its own call in the
book. Callbacks may ask for calls themselves, to any finite depth. `serve` counts that depth down,
and a program that goes deeper than the limit stops; `nestingLimit` is far beyond what a test can
mean.
-/

namespace TestDouble

/-- Why a program on a recorder did not end. -/
inductive Stop where
  /-- Somebody else's code gave up. -/
  | crashed (c : Crash)
  /-- Callbacks went deeper than the limit. -/
  | tooDeep
  deriving DecidableEq

/-- The text of the reason. -/
def Stop.message : Stop → String
  | crashed c => c.message
  | tooDeep => "callbacks are nested too deeply"

/-- What requests work on. -/
structure Desk where
  book : Book
  /-- The diagnostics told so far, the oldest first. -/
  diagnostics : List Diagnostic
  /-- The last error that a program has shown. -/
  reported : Option TestError

namespace Desk

/-- Tells some diagnostics. -/
def tell (d : Desk) (ds : List Diagnostic) : Desk := { d with diagnostics := d.diagnostics ++ ds }

@[simp] theorem tell_book (d : Desk) (ds : List Diagnostic) : (d.tell ds).book = d.book := rfl

end Desk

/-- Runs a program, its requests being answered by `serve`. -/
def Program.run {α : Type}
    (serve : {k : RequestKind} → Request k → Desk → Except Stop k.Reply × Desk) :
    Recording α → Desk → Except Stop α × Desk
  | done a, d => (.ok a, d)
  | crash c, d => (.error (.crashed c), d)
  | report e rest, d => rest.run serve { d with reported := some e }
  | ask q next, d =>
    match serve q d with
    | (.ok reply, d) => (next reply).run serve d
    | (.error stop, d) => (.error stop, d)

namespace Recorder

/-- Registers an expectation. A strict recorder refuses one that an earlier one shadows; a lenient
one takes it and tells so. -/
def register (mode : Mode) (saturate : Bool) (operation : String) (matcher : ArgumentMatcher)
    (outcome : Outcome) (times : Times) (d : Desk) : Except Stop (Except TestError Nat) × Desk :=
  let id := d.book.nextExpectation
  let registered := Diagnostic.expectationRegistered operation matcher.text times.text id
  let added := { d with book := d.book.add operation matcher outcome times }
  match Book.shadowOf saturate operation matcher d.book.expectations with
  | .error c => (.error (.crashed c), d)
  | .ok none => (.ok (.ok id), added.tell [registered])
  | .ok (some existing) =>
    if mode.isStrict then
      (.ok (.error (.ambiguous operation existing.matcher.text matcher.text)), d)
    else
      (.ok (.ok id),
        added.tell
          [.expectationShadowed operation existing.matcher.text matcher.text, registered])

/-- What is told about a recorded call before its outcome runs. -/
def callDiagnostics (mode : Mode) (operation : String) (sequence : Nat) :
    Option Expectation → List Diagnostic
  | some e =>
    .callRecorded operation sequence (some e.id) ::
      if e.times.forbidsCalls && !mode.isStrict then [.forbiddenCall operation sequence] else []
  | none =>
    .callRecorded operation sequence none ::
      if mode.isStrict then [] else [.unmatchedCall operation sequence]

/-- Records a call and tells about it. -/
def record (mode : Mode) (saturate : Bool) (operation : String) (arguments : List Json)
    (d : Desk) : Except Stop (Option Expectation) × Desk :=
  match d.book.record saturate operation arguments with
  | (.error c, book) => (.error (.crashed c), { d with book })
  | (.ok hit, book) =>
    (.ok hit,
      { d with book }.tell (callDiagnostics mode operation d.book.nextSequence hit))

/-- Checks a count of calls. -/
def verify (operation : String) (matcher : ArgumentMatcher) (times : Times) (d : Desk) :
    Except Stop (Except TestError Unit) × Desk :=
  match d.book.verify operation matcher times with
  | .error c => (.error (.crashed c), d)
  | .ok (verdict, book) => (.ok verdict, { d with book })

/-- Checks every expectation. -/
def verifyAll (d : Desk) : Except TestError Unit × Desk :=
  let failures := d.book.violations
  (TestError.collect failures,
    d.tell [.expectationsVerified d.book.expectations.length failures.length])

/-- Checks that every call is accounted for. -/
def verifyNoOtherCalls (d : Desk) : Except TestError Unit × Desk :=
  let failures := d.book.strayCalls
  (TestError.collect failures, d.tell [.otherCallsVerified d.book.calls.length failures.length])

/-- The answer of an outcome, `run` running the body of a callback. -/
def apply (run : Recording (Except Failure Json) → Desk → Except Stop (Except Failure Json) × Desk)
    (answered : Nat) (arguments : List Json) :
    Outcome → Desk → Except Stop (Except TestError Json) × Desk
  | .returns v, d => (.ok (.ok v), d)
  | .fails failure, d => (.ok (.error (.raised failure)), d)
  | .callback body, d =>
    match run (body answered arguments) d with
    | (.ok (.ok v), d) => (.ok (.ok v), d)
    | (.ok (.error failure), d) => (.ok (.error (.raised failure)), d)
    | (.error stop, d) => (.error stop, d)

/-- Answers a call: records it, and then runs the outcome of the expectation that took it. A call
that nobody took fails on a strict recorder and is answered by `null` on a lenient one. A call
that hit an expectation forbidding it fails on a strict recorder, and the outcome does not run. -/
def invoke (run : Recording (Except Failure Json) → Desk → Except Stop (Except Failure Json) × Desk)
    (mode : Mode) (saturate : Bool) (operation : String) (arguments : List Json) (d : Desk) :
    Except Stop (Except TestError Json) × Desk :=
  match record mode saturate operation arguments d with
  | (.error stop, d) => (.error stop, d)
  | (.ok none, d) =>
    (.ok (if mode.isStrict then .error (.unexpectedCall operation arguments) else .ok .null), d)
  | (.ok (some e), d) =>
    if e.times.forbidsCalls && mode.isStrict then (.ok (.error e.violation), d)
    else apply run (e.consumed - 1) arguments e.outcome d

/-- Answers one request. `depth` bounds how deep callbacks may be nested. -/
def serve (mode : Mode) (depth : Nat) :
    {k : RequestKind} → Request k → Desk → Except Stop k.Reply × Desk
  | _, .register saturate operation matcher outcome times, d =>
    register mode saturate operation matcher outcome times d
  | _, .invoke saturate operation arguments, d =>
    match depth with
    | 0 => invoke (fun _ d => (.error .tooDeep, d)) mode saturate operation arguments d
    | depth + 1 =>
      invoke (fun body d => body.run (serve mode depth) d) mode saturate operation arguments d
  | _, .verify operation matcher times, d => verify operation matcher times d
  | _, .verifyAll, d => let (verdict, d) := verifyAll d; (.ok verdict, d)
  | _, .verifyNoOtherCalls, d => let (verdict, d) := verifyNoOtherCalls d; (.ok verdict, d)
  | _, .calls, d => (.ok d.book.calls, d)
  | _, .expectations, d => (.ok (d.book.expectations.map Expectation.summary), d)
  | _, .reset, d => (.ok (), { d with book := .empty })

/-- How deep callbacks may be nested. -/
def nestingLimit : Nat := 4096

/-- Runs a program on a recorder. -/
def run {α : Type} (mode : Mode) (p : Recording α) (d : Desk) : Except Stop α × Desk :=
  p.run (serve mode nestingLimit) d

end Recorder
end TestDouble
