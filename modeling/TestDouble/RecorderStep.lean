import TestDouble.Codec.ValueType
import TestDouble.Report
import TestDouble.Surface

/-!
# Steps on a recorder

A `RecorderStep` is one thing that a test or a callback does to a recorder, as data. Its program
does it and reports the answer. What depends on the handle that the step is done with, callbacks
above all, is a function of the handle.
-/

namespace TestDouble

/-- One thing done to a recorder. A matcher that could not be encoded is the error it gives. -/
inductive RecorderStep where
  | register (operation : String) (matcher : Except DecodeError ArgumentMatcher)
    (outcome : Handle → Outcome) (times : Times)
  | invoke (operation : String) (arguments : List Json)
  | verify (operation : String) (matcher : Except DecodeError ArgumentMatcher) (times : Times)
  | verifyAll
  | verifyNoOtherCalls
  | calls
  | callsTo (operation : String)
  | callCount (operation : String)
  | expectations
  | mode
  | reset
  /-- One argument of one call, as a value of a type. -/
  | argument (position index : Nat) (type : ValueType)
  | expect (capability method : String)
    (parts : Handle → Except DecodeError (List ExpectationBuilder.Part))
  | surfaceInvoke (capability method : String) (arguments : List Json)
  | call (capability method : String) (type : ValueType) (arguments : Payload) (orDefault : Bool)
  | surfaceVerify (capability method : String) (matcher : Except DecodeError ArgumentMatcher)
    (times : Times)
  | surfaceCalls (capability : String)
  | surfaceCallsTo (capability method : String)
  | surfaceInfo (capability method : String)

namespace RecorderStep

instance : Inhabited RecorderStep := ⟨mode⟩

/-- Shows the error of an answer, if it is one, to whoever watches the test. -/
def telling {α : Type} (p : Recording (Except TestError α)) : Recording (Except TestError α) :=
  p.bind fun
    | .ok a => .done (.ok a)
    | .error e => .report e (.done (.error e))

/-- Goes on with a matcher if there is one. -/
def withMatcher (matcher : Except DecodeError ArgumentMatcher)
    (p : ArgumentMatcher → Recording Json) : Recording Json :=
  match matcher with
  | .ok matcher => p matcher
  | .error reason => .done reason.report

/-- Does a step and reports its answer. -/
def program (h : Handle) : RecorderStep → Recording Json
  | register operation matcher outcome times =>
    withMatcher matcher fun matcher => do
      return reportRegistration (← telling (h.register operation matcher (outcome h) times))
  | invoke operation arguments => do
    return reportAnswer (← telling (h.invoke operation arguments))
  | verify operation matcher times =>
    withMatcher matcher fun matcher => do
      return reportVerdict (← telling (h.verify operation matcher times))
  | verifyAll => do return reportVerdict (← telling h.verifyAll)
  | verifyNoOtherCalls => do return reportVerdict (← telling h.verifyNoOtherCalls)
  | calls => do return .arr ((← h.calls).map RecordedCall.report)
  | callsTo operation => do return .arr ((← h.callsTo operation).map RecordedCall.report)
  | callCount operation => do return .nat (← h.callCount operation)
  | expectations => do return .arr ((← h.expectations).map ExpectationSummary.report)
  | mode => return .str h.mode.text
  | reset => do
    h.reset
    return .null
  | argument position index type => do
    match (← h.calls)[position]? with
    | some c => return reportOption ((c.argument? type.codec index).map type.codec.encode)
    | none => return .str "no call"
  | expect capability method parts =>
    match parts h with
    | .error reason => return reason.report
    | .ok parts => do
      let builder := ((h.surface capability).expect method).addAll parts
      return reportRegistration (← telling builder.register)
  | surfaceInvoke capability method arguments => do
    return reportAnswer (← telling ((h.surface capability).invoke method arguments))
  | call capability method type arguments orDefault => do
    let s := h.surface capability
    let p :=
      if orDefault then s.callOrDefault method type.codec type.default arguments
      else s.call method type.codec arguments
    return reportAnswer ((← telling p).map type.codec.encode)
  | surfaceVerify capability method matcher times =>
    withMatcher matcher fun matcher => do
      return reportVerdict (← telling ((h.surface capability).verify method matcher times))
  | surfaceCalls capability => do
    return .arr ((← (h.surface capability).calls).map RecordedCall.report)
  | surfaceCallsTo capability method => do
    return .arr ((← (h.surface capability).callsTo method).map RecordedCall.report)
  | surfaceInfo capability method => do
    let s := h.surface capability
    return .object
      [("capability", .str s.capability), ("operation", .str (s.operation method)),
       ("calls", .nat (← h.calls).length)]

end RecorderStep

/-- A step, and whether it is done with a handle that saturates otherwise. -/
structure HandledStep where
  saturate : Option Bool
  step : RecorderStep
  deriving Inhabited

/-- Does a step with the handle it asks for. -/
def HandledStep.program (h : Handle) (s : HandledStep) : Recording Json :=
  s.step.program (match s.saturate with
    | some saturate => h.withSaturation saturate
    | none => h)

/-- Does steps one after another and gives the list of their reports. -/
def HandledStep.programAll (h : Handle) : List HandledStep → Recording (List Json)
  | [] => .done []
  | s :: rest => (s.program h).bind fun v => (programAll h rest).bind fun vs => .done (v :: vs)

/-- The callback that does steps and answers with the list of their reports. -/
def Callback.steps (h : Handle) (steps : List HandledStep) : Callback := fun _ _ =>
  (HandledStep.programAll h steps).bind fun vs => .done (.ok (.arr vs))

end TestDouble
