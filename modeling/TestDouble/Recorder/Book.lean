import TestDouble.Program

/-!
# The book of a recorder

A recorder keeps its expectations in the order they were registered and its calls in the order
they arrived. A call is *routed* to the first expectation of its operation that is not exhausted
and whose matcher accepts the arguments; the expectation's count goes up by one. A sequence number
is taken before the matchers run, so a matcher that crashes leaves a gap in the numbers.

An earlier expectation *shadows* a new one if it would take every call that both accept. A cap
puts an end to that, so only uncapped expectations shadow others, or any expectation while caps
are not enforced.
-/

namespace TestDouble

/-- What is expected of an operation, and how often it has happened. -/
structure Expectation where
  id : Nat
  operation : String
  matcher : ArgumentMatcher
  outcome : Outcome
  times : Times
  /-- How many calls have been routed here. -/
  consumed : Nat

namespace Expectation

/-- Whether a call is routed here. The operation is compared first, then the count is looked at,
and only then the matchers run. -/
def accepts (saturate : Bool) (operation : String) (arguments : List Json) (e : Expectation) :
    Verdict :=
  if e.operation ≠ operation then .ok false
  else if saturate && e.times.isExhaustedBy e.consumed then .ok false
  else e.matcher.accepts arguments

/-- Whether this expectation takes every call that it shares with a later one. -/
def shadows (saturate : Bool) (operation : String) (matcher : ArgumentMatcher) (e : Expectation) :
    Verdict :=
  if e.operation ≠ operation then .ok false
  else if saturate && e.times.isCapped then .ok false
  else e.matcher.overlaps matcher

/-- Whether the count is as it should be. -/
def isSatisfied (e : Expectation) : Bool := e.times.isSatisfiedBy e.consumed

/-- The error that reports the count. -/
def violation (e : Expectation) : TestError :=
  .unsatisfied e.operation e.matcher.text e.times e.consumed

/-- What can be seen of the expectation. -/
def summary (e : Expectation) : ExpectationSummary :=
  ⟨e.id, e.operation, e.matcher.text, e.times, e.consumed⟩

/-- The expectation after one more call. -/
def consume (e : Expectation) : Expectation := { e with consumed := e.consumed + 1 }

end Expectation

namespace RecordedCall

/-- Whether a verification of an operation with a matcher counts this call. -/
def countedBy (operation : String) (matcher : ArgumentMatcher) (c : RecordedCall) : Verdict :=
  if c.operation = operation then matcher.accepts c.arguments else .ok false

/-- The error that reports the call as one nobody asked for. -/
def unexpected (c : RecordedCall) : TestError := .unexpectedCall c.operation c.arguments

end RecordedCall

/-- Everything that a recorder remembers. -/
structure Book where
  /-- In the order of registration. -/
  expectations : List Expectation
  /-- In the order of arrival. -/
  calls : List RecordedCall
  /-- The id of the next expectation. -/
  nextExpectation : Nat
  /-- The sequence number of the next call. -/
  nextSequence : Nat

namespace Book

/-- Nothing remembered. -/
def empty : Book := ⟨[], [], 0, 0⟩

instance : Inhabited Book := ⟨empty⟩

/-- The first expectation that shadows a new one. -/
def shadowOf (saturate : Bool) (operation : String) (matcher : ArgumentMatcher) :
    List Expectation → Except Crash (Option Expectation)
  | [] => .ok none
  | e :: rest =>
    match e.shadows saturate operation matcher with
    | .error c => .error c
    | .ok true => .ok (some e)
    | .ok false => shadowOf saturate operation matcher rest

/-- Adds an expectation at the end, under the next id. -/
def add (b : Book) (operation : String) (matcher : ArgumentMatcher) (outcome : Outcome)
    (times : Times) : Book :=
  { b with
    expectations := b.expectations ++ [⟨b.nextExpectation, operation, matcher, outcome, times, 0⟩]
    nextExpectation := b.nextExpectation + 1 }

/-- Routes a call: the expectation that takes it, with the call counted, and all expectations
afterwards. -/
def route (saturate : Bool) (operation : String) (arguments : List Json) :
    List Expectation → Except Crash (Option Expectation × List Expectation)
  | [] => .ok (none, [])
  | e :: rest =>
    match e.accepts saturate operation arguments with
    | .error c => .error c
    | .ok true => .ok (some e.consume, e.consume :: rest)
    | .ok false =>
      match route saturate operation arguments rest with
      | .error c => .error c
      | .ok (hit, rest) => .ok (hit, e :: rest)

/-- Takes a sequence number, routes a call and records it. After a crash the number is gone and
nothing else has changed. -/
def record (b : Book) (saturate : Bool) (operation : String) (arguments : List Json) :
    Except Crash (Option Expectation) × Book :=
  let numbered := { b with nextSequence := b.nextSequence + 1 }
  match route saturate operation arguments b.expectations with
  | .error c => (.error c, numbered)
  | .ok (hit, expectations) =>
    let call : RecordedCall := ⟨b.nextSequence, operation, arguments, hit.map (·.id), false⟩
    (.ok hit, { numbered with expectations, calls := b.calls ++ [call] })

/-- How many calls a verification counts, and all calls with those marked. -/
def tally (operation : String) (matcher : ArgumentMatcher) :
    List RecordedCall → Except Crash (Nat × List RecordedCall)
  | [] => .ok (0, [])
  | c :: rest =>
    match c.countedBy operation matcher with
    | .error crash => .error crash
    | .ok counted =>
      match tally operation matcher rest with
      | .error crash => .error crash
      | .ok (n, marked) =>
        .ok (if counted then (n + 1, { c with verified := true } :: marked) else (n, c :: marked))

/-- Counts the calls to an operation with accepted arguments. If the count is as it should be, the
counted calls are marked as verified. -/
def verify (b : Book) (operation : String) (matcher : ArgumentMatcher) (times : Times) :
    Except Crash (Except TestError Unit × Book) :=
  match tally operation matcher b.calls with
  | .error c => .error c
  | .ok (count, marked) =>
    if times.isSatisfiedBy count then .ok (.ok (), { b with calls := marked })
    else .ok (.error (.unsatisfied operation matcher.text times count), b)

/-- The expectations whose count is not as it should be. -/
def violations (b : Book) : List TestError :=
  (b.expectations.filter fun e => !e.isSatisfied).map Expectation.violation

/-- The calls that nobody expected and no verification has counted. -/
def strayCalls (b : Book) : List TestError :=
  (b.calls.filter fun c => !c.isAccountedFor).map RecordedCall.unexpected

end Book
end TestDouble
