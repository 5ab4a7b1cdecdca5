import TestDouble.Json
import TestDouble.Log.Snapshot

/-!
# Reports about records

The JSON form of faults and records, and the answers to queries.
-/

namespace TestDouble

/-- The report of a fault. -/
def Fault.report (f : Fault) : Json :=
  .object [("message", .str f.message), ("chain", .texts f.causes)]

/-- The report of the further texts of a record. -/
def LogRecord.reportFields (r : LogRecord) : Json :=
  .obj (r.fields.entries.map fun (k, v) => (k, .str v))

/-- The report of a record. -/
def LogRecord.report (r : LogRecord) : Json :=
  .object
    [("sequence", .nat r.sequence), ("level", .str r.level.text), ("message", .str r.message),
     ("error", .optional (r.error.map Fault.report)), ("category", .optionalText r.category),
     ("fields", r.reportFields), ("display", .str r.text)]

/-- The report of a record that may be missing. -/
def reportRecord (r : Option LogRecord) : Json := .optional (r.map LogRecord.report)

/-- The answer to a question about a snapshot. -/
def Question.answer (s : Snapshot) : Question → Json
  | any test => .bool (s.any test.holds)
  | firstWhere test => reportRecord (s.firstWhere? test.holds)
  | latest => reportRecord s.latest?
  | messages => .texts s.messages
  | length => .nat s.length
  | isEmpty => .bool s.records.isEmpty
  | sequences => .arr (s.records.map fun r => .nat r.sequence)
  | texts => .texts (s.records.map LogRecord.text)
  | records => .arr (s.records.map LogRecord.report)

/-- The answer to a query on a snapshot. -/
def Query.answer (q : Query) (s : Snapshot) : Json := q.question.answer (q.narrow s)

end TestDouble
