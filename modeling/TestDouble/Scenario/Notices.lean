import TestDouble.Scenario.Basic
import TestDouble.Callback

/-!
# Scenarios of the notification handler
-/

namespace TestDouble.Scenario.Notices

/-- A notice with a body made of its number. -/
def notice (id : UInt64) (priority : UInt8) : Notice :=
  ⟨id, priority, "event body " ++ toString id.toNat⟩

/-- Handles a notice. -/
def handle (n : Notice) : BenchM (Except TestError Unit) := do
  (← NotificationHandler.onBench).handle n

/-- Expects notices to be audited, whatever they are. -/
def expectAppend (parts : List ExpectationBuilder.Part) : BenchM Unit :=
  expect "AuditLog" "append" (.matching [.any] :: parts)

/-- Expects notices to be sent, whatever they are. -/
def expectSend (parts : List ExpectationBuilder.Part) : BenchM Unit :=
  expect "Notifier" "send" (.matching [.any, .any] :: parts)

/-- Notices of low priority are audited and never sent. -/
def lowPriority : Scenario := .strict do
  expectAppend [returning (.int 1), .times .anyNumber]
  expectSend [.times .never]
  require (← handle (notice 0 1))
  require (← handle (notice 1 1))
  require (← handle (notice 2 1))
  let audit ← Bench.surface "AuditLog"
  check ((← Bench.perform audit.calls).length = 3)
  verified

/-- A forbidden call is reported, though the handler does not pass its failure on. -/
def forbiddenSend : Scenario := .strict do
  expectAppend [returning (.int 1)]
  expectSend [.times .never]
  require (← handle (notice 7 9))
  check (((← Bench.snapshot).withLevel .warning).length = 1)
  let e ← requireError (← Bench.verify)
  check (e matches .unsatisfied _ _ .never 1)

/-- Urgent notices are sent, and what was sent can be looked at. -/
def urgentSent : Scenario := .strict do
  expectAppend [.calls (Callback.counter 1), .times .atLeastOnce]
  expect "Notifier" "send"
    [.matching
      [.exact (.str "urgent"),
       .satisfying Notice.codec "urgent event" fun n =>
         .ok (NotificationHandler.urgentPriority ≤ n.priority)],
     .calls fun _ _ => .done (.ok .null),
     .times (.exactly 2)]
  require (← handle (notice 1 9))
  require (← handle (notice 2 3))
  require (← handle (notice 3 10))
  let notifier ← Bench.surface "Notifier"
  let sent ← Bench.perform (notifier.callsTo "send")
  check (sent.map (fun c => (c.argument? Notice.codec 1).map (·.id)) = [some 1, some 3])
  check ((← Bench.snapshot).latest?.any fun r => r.message == "Audited event 3 at 3")
  verified

/-- A failure to send is logged and not passed on. -/
def sendFailure : Scenario := .strict do
  expectAppend [returning (.int 1)]
  expectSend [.fails (.message "channel closed")]
  require (← handle (notice 5 9))
  check (((← Bench.snapshot).withLevel .warning).messages =
    ["Could not notify about event 5: channel closed"])
  verified

/-- An uncapped expectation makes a later one that overlaps it ambiguous. -/
def blockedOverlap : Scenario := .strict do
  expectAppend [returning (.int 1), .times .anyNumber]
  let audit ← Bench.surface "AuditLog"
  let e ← requireError <| ← Bench.perform
    ((audit.expect "append").addAll
      [withArguments [.str "event 1"], returning (.int 2)]).register
  check (e matches .ambiguous ..)
  verified

end TestDouble.Scenario.Notices
