import TestDouble.Harness

/-!
# The notification handler

A subject under test: it writes every event into the audit log and then sends the urgent ones. An
event that cannot be audited is an error; one that cannot be sent is only logged.
-/

namespace TestDouble

/-- Something to be notified about. -/
structure Notice where
  id : UInt64
  priority : UInt8
  body : String
  deriving DecidableEq

/-- Notices as JSON records. -/
def Notice.codec : Codec Notice where
  encode n :=
    .object
      [("id", Codec.u64.encode n.id), ("priority", Codec.u8.encode n.priority),
       ("body", .str n.body)]
  decode v := do
    let found ← Fields.read "Event"
      [.of .required "id" .u64, .of .required "priority" .u8, .of .required "body" .text] v
    return {
      id := ← Fields.get .u64 "id" found
      priority := ← Fields.get .u8 "priority" found
      body := ← Fields.get .text "body" found }

/-- The handler with its collaborators. -/
structure NotificationHandler where
  notifier : Surface
  audit : Surface
  logger : Logger

namespace NotificationHandler

/-- The least priority that is urgent. -/
def urgentPriority : UInt8 := 8

/-- The handler on a bench, its collaborators stood in for by surfaces. -/
def onBench : BenchM NotificationHandler := do
  return ⟨← Bench.surface "Notifier", ← Bench.surface "AuditLog",
    ← Bench.logger "NotificationHandler"⟩

/-- Asks for a notice to be audited; the answer is its position in the audit log. -/
def append (h : NotificationHandler) (n : Notice) : Recording (Except TestError UInt64) :=
  h.audit.call "append" .u64 (.value (.arr [.str ("event " ++ toString n.id.toNat)]))

/-- Asks for a notice to be sent on the urgent channel. -/
def send (h : NotificationHandler) (n : Notice) : Recording (Except TestError Unit) :=
  h.notifier.call "send" .unit (.value (.arr [.str "urgent", Notice.codec.encode n]))

/-- Handles a notice. -/
def handle (h : NotificationHandler) (n : Notice) : BenchM (Except TestError Unit) := do
  match ← Bench.perform (h.append n) with
  | .error e => return .error e
  | .ok position =>
    Bench.log h.logger .debug
      ("Audited event " ++ toString n.id.toNat ++ " at " ++ toString position.toNat) none
    if n.priority < urgentPriority then return .ok ()
    match ← Bench.perform (h.send n) with
    | .ok () => return .ok ()
    | .error e =>
      Bench.log h.logger .warning
        ("Could not notify about event " ++ toString n.id.toNat ++ ": " ++ e.message) none
      return .ok ()

end NotificationHandler
end TestDouble
