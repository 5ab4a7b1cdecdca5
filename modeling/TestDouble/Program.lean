import TestDouble.Matcher
import TestDouble.TestError

/-!
# Programs on a recorder

What a client asks of a recorder is a `Request`; its kind fixes the type of the reply. A `Program`
asks any finite number of requests, each chosen by the replies so far, and ends with a result. The
callbacks of outcomes are programs too, so a callback can do to the recorder whatever its owner
can; and since requests carry outcomes, programs, requests and outcomes are defined together.

A callback is told how many calls its expectation has answered before, which is all the memory
that counting callbacks need.
-/

namespace TestDouble

/-- A call as the recorder keeps it. -/
structure RecordedCall where
  /-- The position of the call among all calls. -/
  sequence : Nat
  operation : String
  arguments : List Json
  /-- The expectation that took the call. -/
  matched : Option Nat
  /-- Whether a verification has counted the call. -/
  verified : Bool
  deriving Inhabited

namespace RecordedCall

/-- Whether somebody expected the call or has verified it. -/
def isAccountedFor (c : RecordedCall) : Bool := c.matched.isSome || c.verified

/-- One argument by position, as a value of a type. -/
def argument? {α : Type} (c : RecordedCall) (codec : Codec α) (index : Nat) : Option α :=
  decodeArgument? codec c.arguments index

end RecordedCall

/-- What can be seen of a registered expectation. -/
structure ExpectationSummary where
  id : Nat
  operation : String
  matcher : String
  times : Times
  consumed : Nat
  deriving DecidableEq

/-- The kinds of request. -/
inductive RequestKind where
  | registration
  | invocation
  | verification
  | callList
  | expectationList
  | reset
  deriving DecidableEq

/-- What a recorder replies to a request. -/
abbrev RequestKind.Reply : RequestKind → Type
  | registration => Except TestError Nat
  | invocation => Except TestError Json
  | verification => Except TestError Unit
  | callList => List RecordedCall
  | expectationList => List ExpectationSummary
  | reset => Unit

/-- Requests made one after another, up to a result or a crash. -/
inductive Program (Q : RequestKind → Type) (α : Type) : Type where
  | done (result : α)
  /-- Gives up. -/
  | crash (c : Crash)
  /-- Shows an error to whoever watches the test. -/
  | report (e : TestError) (rest : Program Q α)
  | ask {k : RequestKind} (request : Q k) (next : k.Reply → Program Q α)

namespace Program

variable {Q : RequestKind → Type} {α β : Type}

/-- Goes on with the result of a program. -/
def bind : Program Q α → (α → Program Q β) → Program Q β
  | done a, f => f a
  | crash c, _ => crash c
  | report e rest, f => report e (rest.bind f)
  | ask q next, f => ask q fun r => (next r).bind f

instance : Monad (Program Q) where
  pure := done
  bind := bind

@[simp] theorem ask_bind {k : RequestKind} (q : Q k) (next : k.Reply → Program Q α)
    (f : α → Program Q β) : (ask q next).bind f = ask q fun r => (next r).bind f := rfl

end Program

mutual

/-- What an expectation does with the calls it takes. -/
inductive Outcome where
  | returns (value : Json)
  | fails (failure : Failure)
  /-- Runs with the number of calls answered before and with the arguments of the call. -/
  | callback (body : Nat → List Json → Program Request (Except Failure Json))

/-- What can be asked of a recorder. `saturate` says whether expectations that have reached their
cap stop taking calls. -/
inductive Request : RequestKind → Type where
  | register (saturate : Bool) (operation : String) (matcher : ArgumentMatcher)
    (outcome : Outcome) (times : Times) : Request .registration
  | invoke (saturate : Bool) (operation : String) (arguments : List Json) : Request .invocation
  /-- Counts the calls to an operation with accepted arguments. -/
  | verify (operation : String) (matcher : ArgumentMatcher) (times : Times) :
    Request .verification
  /-- Checks every expectation. -/
  | verifyAll : Request .verification
  /-- Checks that every call is accounted for. -/
  | verifyNoOtherCalls : Request .verification
  | calls : Request .callList
  | expectations : Request .expectationList
  /-- Forgets all expectations and calls. -/
  | reset : Request .reset

end

/-- Programs on a recorder. -/
abbrev Recording (α : Type) : Type := Program Request α

/-- The program of one request. -/
def Recording.request {k : RequestKind} (q : Request k) : Recording k.Reply := .ask q .done

/-- The body of a callback. -/
abbrev Callback : Type := Nat → List Json → Recording (Except Failure Json)

namespace Outcome

instance : Inhabited Outcome := ⟨returns .null⟩

/-- The text of an outcome, if it has one. -/
def shown? : Outcome → Option String
  | returns v => some ("Returns(" ++ v.shown ++ ")")
  | fails failure => failure.shown?.map fun s => "Fails(" ++ s ++ ")"
  | callback _ => some "Callback(..)"

end Outcome
end TestDouble
