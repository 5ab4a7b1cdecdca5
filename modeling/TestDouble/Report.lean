import TestDouble.Diagnostic
import TestDouble.Program

/-!
# Reports

The JSON form of what the library answers: errors, calls, expectations and verdicts.
-/

namespace TestDouble

/-- A fault of encoding or decoding by itself. -/
def DecodeError.report (e : DecodeError) : Json :=
  .object [("error", .str "Json"), ("message", .str e.message)]

/-- The parts of a report about an error of configuration. -/
def ConfigError.report (e : ConfigError) : Json :=
  .object <| ("error", .str e.kind) ::
    match e.text? with
    | some text => [("message", .str text)]
    | none => []

namespace TestError

/-- The parts that a report about an error has besides its message. -/
def reportParts : TestError → List (String × Json)
  | unexpectedCall operation arguments =>
    [("error", .str "UnexpectedCall"), ("operation", .str operation),
     ("arguments", .arr arguments)]
  | unsatisfied operation matcher expected actual =>
    [("error", .str "UnsatisfiedExpectation"), ("operation", .str operation),
     ("matcher", .str matcher), ("expected", .str expected.text), ("actual", .nat actual)]
  | ambiguous operation existing registered =>
    [("error", .str "DuplicateAmbiguousExpectation"), ("operation", .str operation),
     ("existing", .str existing), ("registered", .str registered)]
  | raised _ => [("error", .str "Raised")]
  | encoding operation _ => [("error", .str "Encoding"), ("operation", .str operation)]
  | decoding operation _ => [("error", .str "Decoding"), ("operation", .str operation)]
  | verification _ => [("error", .str "Verification")]
  | config reason => [("error", .str "Config"), ("kind", .str reason.kind)]

/-- Whether the message of an error belongs into a report. -/
def tellsMessage : TestError → Bool
  | config reason => reason.text?.isSome
  | _ => true

/-- The report of an error without what is inside it. -/
def reportEntries (e : TestError) : List (String × Json) :=
  e.reportParts ++ if e.tellsMessage then [("message", .str e.message)] else []

/-- The report of an error. -/
def report (e : TestError) : Json :=
  .object <| e.reportEntries ++
    match e with
    | verification es =>
      [("failures", .arr ((allFailures es).map fun e => .object e.reportEntries))]
    | _ => []

end TestError

/-- The report of a success. -/
def Json.ok (v : Json) : Json := .object [("ok", v)]

/-- The report of an answer. -/
def reportAnswer : Except TestError Json → Json
  | .ok v => .ok v
  | .error e => e.report

/-- The report of a verdict. -/
def reportVerdict : Except TestError Unit → Json
  | .ok () => .ok (.bool true)
  | .error e => e.report

/-- The report of a registration. -/
def reportRegistration : Except TestError Nat → Json
  | .ok id => .ok (.str (Diagnostic.idText id))
  | .error e => e.report

/-- The report of a value that may be missing. -/
def reportOption : Option Json → Json
  | some v => .object [("some", v)]
  | none => .str "none"

/-- The report of a crash. -/
def reportCrash (message : String) : Json := .object [("panic", .str message)]

/-- The report of a recorded call. -/
def RecordedCall.report (c : RecordedCall) : Json :=
  .object
    [("sequence", .nat c.sequence), ("operation", .str c.operation),
     ("arguments", .arr c.arguments),
     ("matched", .optionalText (c.matched.map Diagnostic.idText)),
     ("verified", .bool c.verified), ("accounted", .bool c.isAccountedFor)]

/-- The report of an expectation. -/
def ExpectationSummary.report (e : ExpectationSummary) : Json :=
  .object
    [("id", .str (Diagnostic.idText e.id)), ("operation", .str e.operation),
     ("matcher", .str e.matcher), ("times", .str e.times.text), ("consumed", .nat e.consumed)]

end TestDouble
