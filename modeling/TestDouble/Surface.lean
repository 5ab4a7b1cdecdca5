import TestDouble.Callback
import TestDouble.Mode
import TestDouble.Text.Search

/-!
# Handles and surfaces

A `Handle` is what a client holds of a recorder; several handles can share one recorder and differ
in whether capped expectations saturate. A `Surface` is the part of a recorder that stands in for
one collaborator, its *capability*: the operations of a surface are named by the capability, the
separator and the name of the method.

Whatever a client does is a program, so it can be done in a test and in a callback alike.
-/

namespace TestDouble

/-- What a client holds of a recorder. -/
structure Handle where
  mode : Mode
  /-- Whether expectations that have reached their cap stop taking calls. -/
  saturate : Bool
  /-- What stands between a capability and a method in the name of an operation. -/
  separator : String

namespace Handle

/-- Another handle on the same recorder. -/
def withSaturation (h : Handle) (saturate : Bool) : Handle := { h with saturate }

/-- Registers an expectation and gives its id. -/
def register (h : Handle) (operation : String) (matcher : ArgumentMatcher) (outcome : Outcome)
    (times : Times) : Recording (Except TestError Nat) :=
  Recording.request (.register h.saturate operation matcher outcome times)

/-- Makes a call and gives its answer. -/
def invoke (h : Handle) (operation : String) (arguments : List Json) :
    Recording (Except TestError Json) :=
  Recording.request (.invoke h.saturate operation arguments)

/-- Checks how often an operation has been called with accepted arguments. -/
def verify (_ : Handle) (operation : String) (matcher : ArgumentMatcher) (times : Times) :
    Recording (Except TestError Unit) :=
  Recording.request (.verify operation matcher times)

/-- Checks every expectation. -/
def verifyAll (_ : Handle) : Recording (Except TestError Unit) := Recording.request .verifyAll

/-- Checks that every call is accounted for. -/
def verifyNoOtherCalls (_ : Handle) : Recording (Except TestError Unit) :=
  Recording.request .verifyNoOtherCalls

/-- All calls in the order of arrival. -/
def calls (_ : Handle) : Recording (List RecordedCall) := Recording.request .calls

/-- The calls to one operation in the order of arrival. -/
def callsTo (h : Handle) (operation : String) : Recording (List RecordedCall) :=
  h.calls.bind fun cs => .done (cs.filter (·.operation == operation))

/-- How many calls to one operation there are. -/
def callCount (h : Handle) (operation : String) : Recording Nat :=
  (h.callsTo operation).bind fun cs => .done cs.length

/-- All expectations in the order of registration. -/
def expectations (_ : Handle) : Recording (List ExpectationSummary) := Recording.request .expectations

/-- Forgets all expectations and calls. -/
def reset (_ : Handle) : Recording Unit := Recording.request .reset

end Handle

/-- The stand-in for one collaborator. -/
structure Surface where
  handle : Handle
  capability : String

namespace Surface

/-- The name of the operation of a method. -/
def operation (s : Surface) (method : String) : String :=
  s.capability ++ s.handle.separator ++ method

/-- Makes a call of a method. -/
def invoke (s : Surface) (method : String) (arguments : List Json) :
    Recording (Except TestError Json) :=
  s.handle.invoke (s.operation method) arguments

/-- Makes a call with the arguments that a payload stands for. Arguments that cannot be encoded
are an error, and then no call is made. -/
def invokeWith (s : Surface) (method : String) (arguments : Payload) :
    Recording (Except TestError Json) :=
  match encodeArguments arguments with
  | .error reason => .done (.error (.encoding (s.operation method) reason))
  | .ok arguments => s.invoke method arguments

/-- Reads the answer of a call as a value of a type. -/
def decodeAnswer {α : Type} (s : Surface) (method : String) (c : Codec α) (answer : Json) :
    Except TestError α :=
  match c.decode answer with
  | .ok x => .ok x
  | .error reason => .error (.decoding (s.operation method) reason)

/-- Makes a call and reads its answer as a value of a type. -/
def call {α : Type} (s : Surface) (method : String) (c : Codec α) (arguments : Payload) :
    Recording (Except TestError α) :=
  (s.invokeWith method arguments).bind fun answer =>
    .done (answer.bind (s.decodeAnswer method c))

/-- Makes a call and reads its answer as a value of a type, `null` being read as a given value. -/
def callOrDefault {α : Type} (s : Surface) (method : String) (c : Codec α) (default : α)
    (arguments : Payload) : Recording (Except TestError α) :=
  (s.invokeWith method arguments).bind fun answer =>
    .done <| answer.bind fun
      | .null => .ok default
      | v => s.decodeAnswer method c v

/-- Checks how often a method has been called with accepted arguments. -/
def verify (s : Surface) (method : String) (matcher : ArgumentMatcher) (times : Times) :
    Recording (Except TestError Unit) :=
  s.handle.verify (s.operation method) matcher times

/-- All calls to this surface in the order of arrival. -/
def calls (s : Surface) : Recording (List RecordedCall) :=
  s.handle.calls.bind fun cs =>
    .done (cs.filter fun c => Text.startsWith c.operation (s.operation ""))

/-- The calls of one method in the order of arrival. -/
def callsTo (s : Surface) (method : String) : Recording (List RecordedCall) :=
  s.handle.callsTo (s.operation method)

end Surface

/-- The stand-in for a collaborator on the recorder of a handle. -/
def Handle.surface (h : Handle) (capability : String) : Surface := ⟨h, capability⟩

/-- An expectation in the making; nothing happens before it is registered. -/
structure ExpectationBuilder where
  handle : Handle
  operation : String
  matcher : ArgumentMatcher
  outcome : Outcome
  times : Times
  /-- The first thing given that could not be encoded. -/
  fault : Option DecodeError

/-- Starts an expectation of a method: no arguments, `null` for an answer, once. -/
def Surface.expect (s : Surface) (method : String) : ExpectationBuilder :=
  ⟨s.handle, s.operation method, .empty, .returns .null, .once, none⟩

namespace ExpectationBuilder

/-- One part of an expectation. -/
inductive Part where
  /-- Matchers for the arguments. -/
  | matching (matchers : List Matcher)
  /-- Exactly these arguments. -/
  | arguments (payload : Payload)
  /-- A value to answer with. -/
  | returns (payload : Payload)
  /-- An answer computed from the arguments. -/
  | computes (body : Nat → List Json → Recording Json)
  | fails (failure : Failure)
  /-- A callback that gives an answer or a failure. -/
  | calls (body : Callback)
  | times (t : Times)

instance : Inhabited Part := ⟨.times .once⟩

/-- Remembers that something could not be encoded, unless something else could not before. -/
def encodingFailed (b : ExpectationBuilder) (reason : DecodeError) : ExpectationBuilder :=
  { b with fault := b.fault.or (some reason) }

/-- Adds a part; it replaces an earlier part about the same thing. -/
def add (b : ExpectationBuilder) : Part → ExpectationBuilder
  | .matching matchers => { b with matcher := ⟨matchers⟩ }
  | .arguments payload =>
    match ArgumentMatcher.exactly payload with
    | .ok matcher => { b with matcher }
    | .error reason => b.encodingFailed reason
  | .returns payload =>
    match payload.encode with
    | .ok v => { b with outcome := .returns v }
    | .error reason => b.encodingFailed reason
  | .computes body =>
    { b with
      outcome := .callback fun answered arguments =>
        (body answered arguments).bind fun v => .done (.ok v) }
  | .fails failure => { b with outcome := .fails failure }
  | .calls body => { b with outcome := .callback body }
  | .times t => { b with times := t }

/-- Adds several parts in turn. -/
def addAll (b : ExpectationBuilder) (parts : List Part) : ExpectationBuilder := parts.foldl add b

/-- Registers the expectation. If something could not be encoded that is the error, and then
nothing is registered. -/
def register (b : ExpectationBuilder) : Recording (Except TestError Nat) :=
  match b.fault with
  | some reason => .done (.error (.encoding b.operation reason))
  | none => b.handle.register b.operation b.matcher b.outcome b.times

end ExpectationBuilder
end TestDouble
