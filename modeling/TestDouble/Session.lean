import TestDouble.Session.Action

/-!
# Sessions

A session is played step by step. A step is an action, a capture, which plays further steps while
collectors listen to events, or a session of its own, which shares nothing with the one around it
but the journal. A step that crashes is answered by the crash, and the session goes on.

At the end the scopes still open are closed, the last one first, and then a harness is dropped.
-/

namespace TestDouble

/-- What a session starts with. -/
structure Setup where
  config : Config
  /-- Whether there is a harness, or a bare recorder. -/
  hasHarness : Bool

/-- One step of a session. -/
inductive Step where
  | act (a : Action)
  /-- Plays steps while named collectors listen, each from a least level on. -/
  | capture (layers : List (LogLevel × String)) (steps : List Step)
  /-- Plays a session of its own. -/
  | session (setup : Setup) (steps : List Step)

instance : Inhabited Step := ⟨.act .nothing⟩

namespace Session

/-- A new session. -/
def start (setup : Setup) (journal : Journal) : Session :=
  let bench :=
    if setup.hasHarness then Bench.start setup.config journal else Bench.plain setup.config journal
  ⟨bench, setup.hasHarness, [], [], [], []⟩

/-- The report of an answer, together with how many expectations, calls and records there are. -/
def reportStep (answer : Json) (s : Session) : Json :=
  .object
    [("r", answer),
     ("n", .arr
       [.nat s.bench.book.expectations.length, .nat s.bench.book.calls.length,
        .nat (s.bench.journal.collector s.bench.collector).count])]

/-- Closes all scopes that are open. -/
def closeScopes (s : Session) : Session :=
  { s with
    scopes := []
    bench := { s.bench with journal := s.scopes.foldl Journal.leave s.bench.journal } }

/-- Ends a session and reports how that went. -/
def finish (s : Session) : Json × Session :=
  let s := s.closeScopes
  if s.hasHarness then
    match Bench.drop s.bench with
    | (.ok (), bench) => (.str "ok", { s with bench })
    | (.error stop, bench) => (reportCrash stop.message, { s with bench })
  else (.str "ok", s)

/-- The report of a whole session, and the journal it leaves behind. -/
def conclude (reports : List Json) (s : Session) : Json × Session :=
  let (verdict, s) := s.finish
  (.object [("steps", .arr reports), ("drop", verdict)], s)

/-- Finds the collectors that are to listen. -/
def findLayers : List (LogLevel × String) → SessionM (List Layer)
  | [] => return []
  | (level, name) :: rest => do
    let id ← collectorId name
    return ⟨level, id⟩ :: (← findLayers rest)

/-- Enters a scope in which named collectors listen. -/
def beginCapture (layers : List (LogLevel × String)) : SessionM Scope := do
  enter (← findLayers layers)

/-- The report of an answer or of the reason why there is none. -/
def settle (answer : Except Stop Json × Session) : Json × Session :=
  match answer with
  | (.ok v, s) => (v, s)
  | (.error stop, s) => (reportCrash stop.message, s)

end Session

open Session

mutual

/-- Plays one step and reports its answer. -/
def Step.play : Step → Session → Json × Session
  | act a, s => settle (a.play s)
  | capture layers steps, s =>
    match beginCapture layers s with
    | (.error stop, s) => (reportCrash stop.message, s)
    | (.ok scope, s) =>
      let (reports, s) := Step.playAll steps s
      let journal := s.bench.journal.leave scope
      (.arr reports, { s with bench := { s.bench with journal } })
  | session setup steps, s =>
    let (reports, inner) := Step.playAll steps (Session.start setup s.bench.journal)
    let (report, inner) := inner.conclude reports
    (report,
      { s with
        bench :=
          { s.bench with journal := inner.bench.journal, reported := inner.bench.reported } })

/-- Plays steps one after another and reports on each. -/
def Step.playAll : List Step → Session → List Json × Session
  | [], s => ([], s)
  | step :: rest, s =>
    let (answer, s) := step.play s
    let report := reportStep answer s
    let (reports, s) := Step.playAll rest s
    (report :: reports, s)

end

/-- Plays a whole session and reports on it. -/
def Session.play (setup : Setup) (steps : List Step) : Json :=
  let (reports, s) := Step.playAll steps (Session.start setup .empty)
  (s.conclude reports).1

end TestDouble
