import TestDouble.Log.Report
import TestDouble.RecorderStep
import TestDouble.Service.NotificationHandler
import TestDouble.Service.OrderProcessor
import TestDouble.Service.UserService

/-!
# Actions in a session

A session is a test played from data. It has a bench and, by name, collectors, loggers and
snapshots; it also has a stack of scopes that were opened and not yet closed. An `Action` is one
thing done in a session that holds no other steps; `Action.play` does it and reports the answer.

The collector `main` is that of the bench. Any other collector is opened when it is first named.
-/

namespace TestDouble

/-- Everything a session has. -/
structure Session where
  bench : Bench
  /-- Whether the bench has a harness, or a bare recorder. -/
  hasHarness : Bool
  /-- The numbers of collectors by name, the name given last first. -/
  collectors : List (String × Nat)
  /-- The category and the collector of loggers by name. -/
  loggers : List (String × String × Nat)
  snapshots : List (String × Snapshot)
  /-- The scope opened last comes first. -/
  scopes : List Scope

/-- What happens in a session. -/
abbrev SessionM : Type → Type := ExceptT Stop (StateM Session)

/-- An error to be logged. -/
inductive LoggedError where
  | none
  | fault (f : Fault)
  /-- The last error that a step of the session has answered. -/
  | last

/-- The collector of a new logger. -/
inductive LoggerHome where
  /-- The collector of the harness. -/
  | harness
  /-- A collector of its own. -/
  | own
  | named (collector : String)

/-- One thing done in a session. -/
inductive Action where
  | recorder (step : HandledStep)
  | harnessVerify
  | config
  | captureEvents
  /-- Something that leaves no trace. -/
  | nothing
  | harnessSnapshot (query : Query)
  | harnessSurface (capability method : String)
  | emit (collector : String) (level : LogLevel) (message : String) (error : LoggedError)
  | emitRecord (collector : String) (entry : LogEntry)
  | clear (collector : String)
  | count (collector : String)
  | latest (collector : String)
  | logger (name category : String) (home : LoggerHome)
  | loggerInfo (name : String)
  | log (name : String) (level : LogLevel) (message : String) (error : LoggedError)
  | forward (category : String) (level : LogLevel) (message : String) (error : LoggedError)
  | event (e : Event)
  /-- Opens a scope whose events go to a collector. -/
  | openScope (level : LogLevel) (collector : String)
  /-- Closes the scope opened last. -/
  | closeScope
  | snapshot (name collector : String)
  | query (name : String) (query : Query)
  | sameSnapshots (name other : String)
  /-- Processes an order; with a category, the processor logs by events. -/
  | processOrder (order : Order) (category : Option String)
  | expectPayment (matcher : Except DecodeError ArgumentMatcher) (approved : Option String)
    (times : Times)
  | handleNotice (n : Notice)
  | expectUser (method : String) (matcher : Except DecodeError ArgumentMatcher) (user : User)
    (asList : Bool) (times : Times)
  | getUser (id : UInt32)
  | userNames
  | createUser (name email : String)

namespace Session

/-- Does something on the bench. -/
def onBench {α : Type} (action : BenchM α) : SessionM α := fun s =>
  let (result, bench) := action s.bench
  (result, { s with bench })

/-- Changes the journal. -/
def onJournal (f : Journal → Journal) : SessionM Unit := onBench (Bench.onJournal f)

/-- The number of a collector by name, opened if need be. -/
def collectorId (name : String) : SessionM Nat := fun s =>
  if name = "main" then (.ok s.bench.collector, s)
  else
    match s.collectors.lookup name with
    | some id => (.ok id, s)
    | none =>
      let (id, journal) := s.bench.journal.openCollector
      (.ok id,
        { s with bench := { s.bench with journal }, collectors := (name, id) :: s.collectors })

/-- A collector by name. -/
def collector (name : String) : SessionM Collector := do
  let id ← collectorId name
  return (← get).bench.journal.collector id

/-- Enters a scope with layers of its own. -/
def enter (layers : List Layer) : SessionM Scope := fun s =>
  let (scope, journal) := s.bench.journal.enter layers
  (.ok scope, { s with bench := { s.bench with journal } })

/-- Puts a scope on the stack. -/
def push (scope : Scope) : SessionM Unit := modify fun s => { s with scopes := scope :: s.scopes }

/-- The error to be logged, if there is one. -/
def loggedError : LoggedError → SessionM (Option Fault)
  | .none => return none
  | .fault f => return some f
  | .last => return (← get).bench.reported.map TestError.toFault

/-- Shows an error to whoever watches the test. -/
def telling {α : Type} (answer : Except TestError α) : SessionM (Except TestError α) := do
  if let .error e := answer then
    modify fun s => { s with bench := { s.bench with reported := some e } }
  return answer

/-- Runs a program on the recorder. -/
def perform {α : Type} (p : Recording α) : SessionM α := onBench (Bench.perform p)

/-- Registers the expectation that a program of the recorder builds, if there is a matcher. -/
def expect (capability method : String) (matcher : Except DecodeError ArgumentMatcher)
    (value : Json) (times : Times) : SessionM Json :=
  match matcher with
  | .error reason => return reason.report
  | .ok matcher => do
    let surface ← onBench (Bench.surface capability)
    let id ← perform <| (surface.expect method).addAll
      [.matching matcher.matchers, .returns (.value value), .times times] |>.register
    return reportRegistration (← telling id)

end Session

namespace Action

open Session

/-- Does an action and reports its answer. -/
def play : Action → SessionM Json
  | recorder step => do perform (step.program (← get).bench.handle)
  | harnessVerify => do return reportVerdict (← telling (← onBench Bench.verify))
  | config => do return Config.codec.encode (← get).bench.config
  | captureEvents => do
    push (← onBench Bench.captureEvents)
    return .null
  | nothing => return .null
  | harnessSnapshot q => do return q.answer (← onBench Bench.snapshot)
  | harnessSurface capability method => do
    return .str ((← onBench (Bench.surface capability)).operation method)
  | emit name level message error => do
    let id ← collectorId name
    let entry := (LogEntry.ofMessage level message).withErrorDetail (← loggedError error)
    onJournal fun j => j.emit id entry
    return .null
  | emitRecord name entry => do
    let id ← collectorId name
    onJournal fun j => j.emit id entry
    return .null
  | clear name => do
    let id ← collectorId name
    onJournal fun j => j.clear id
    return .null
  | count name => do return .nat (← collector name).count
  | latest name => do return reportRecord (← collector name).latest?
  | logger name category home => do
    let id ←
      match home with
      | .harness => collectorId "main"
      | .own => fun s =>
        let (id, journal) := s.bench.journal.openCollector
        (.ok id, { s with bench := { s.bench with journal } })
      | .named collector => collectorId collector
    modify fun s =>
      { s with
        loggers := (name, category, id) :: s.loggers
        collectors := ("logger:" ++ name, id) :: s.collectors }
    return .null
  | loggerInfo name => do
    match (← get).loggers.lookup name with
    | none => return .null
    | some (category, id) =>
      let c := (← get).bench.journal.collector id
      return .object
        [("category", .str category), ("latest", reportRecord c.latest?),
         ("messages", .texts c.snapshot.messages)]
  | log name level message error => do
    let error ← loggedError error
    if let some (category, id) := (← get).loggers.lookup name then
      onJournal fun j => j.log (.collecting category id) level message error
    return .null
  | forward category level message error => do
    let error ← loggedError error
    onJournal fun j => j.log (.forwarding category) level message error
    return .null
  | event e => do
    onJournal fun j => j.hear e
    return .null
  | openScope level name => do
    let id ← collectorId name
    push (← enter [⟨level, id⟩])
    return .null
  | closeScope => do
    match (← get).scopes with
    | [] => return .bool false
    | scope :: rest =>
      modify fun s => { s with scopes := rest }
      onJournal fun j => j.leave scope
      return .bool true
  | snapshot name collectorName => do
    let taken := (← collector collectorName).snapshot
    modify fun s => { s with snapshots := (name, taken) :: s.snapshots }
    return .nat taken.length
  | query name q => do
    return q.answer (((← get).snapshots.lookup name).getD default)
  | sameSnapshots name other => do
    let snapshots := (← get).snapshots
    return .bool ((snapshots.lookup name).getD default == (snapshots.lookup other).getD default)
  | processOrder order category => onBench do
    let logger ←
      match category with
      | some category => pure (.forwarding category)
      | none => Bench.logger "OrderProcessor"
    match ← (← OrderProcessor.onBench logger).process order with
    | .success transactionId => return .object [("success", .str transactionId)]
    | .failure reason => return .object [("failure", .str reason)]
  | expectPayment matcher approved times =>
    let result := match approved with
      | some transactionId => PaymentResult.approved transactionId
      | none => PaymentResult.declined
    expect "PaymentGateway" "process_payment" matcher (PaymentResult.codec.encode result) times
  | handleNotice n => do
    let verdict ← onBench do (← NotificationHandler.onBench).handle n
    return reportVerdict (← telling verdict)
  | expectUser method matcher user asList times =>
    let value := User.codec.encode user
    expect "UserRepository" method matcher (if asList then .arr [value] else value) times
  | getUser id => do
    let answer ← onBench do (← UserService.onBench).getUser id
    return reportAnswer ((← telling answer).map (Codec.option User.codec).encode)
  | userNames => do
    let answer ← onBench do (← UserService.onBench).userNames
    return reportAnswer ((← telling answer).map Json.texts)
  | createUser name email => do
    match ← onBench do (← UserService.onBench).createUser name email with
    | .ok user => return .ok (User.codec.encode user)
    | .error (.refusal message) =>
      return .object [("error", .str "Other"), ("message", .str message)]
    | .error (.call e) => return reportAnswer (← telling (.error e))

end Action
end TestDouble
