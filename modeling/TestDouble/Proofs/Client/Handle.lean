import TestDouble.Recorder
import TestDouble.Surface

/-!
# What the programs of a handle do

Each operation of a handle is a program of one request, so running it is serving the request
(`Recording.run_request`); what only works on the reply does nothing to the desk
(`Program.run_bind_done`). The operations on a surface are operations of its handle under other
names.
-/

namespace TestDouble

section

variable {α β : Type} {serve : {k : RequestKind} → Request k → Desk → Except Stop k.Reply × Desk}
  {d : Desk}

/-- The program of one request does the request. -/
theorem Recording.run_request {k : RequestKind} (q : Request k) :
    (Recording.request q).run serve d = serve q d := by
  simp only [Recording.request, Program.run]
  rcases serve q d with ⟨stop | reply, d'⟩ <;> rfl

/-- A program whose result is worked on does the same to the desk. -/
theorem Program.run_bind_done (p : Recording α) (f : α → β) :
    (p.bind fun a => .done (f a)).run serve d = ((p.run serve d).1.map f, (p.run serve d).2) := by
  induction p generalizing d with
  | done a => rfl
  | crash c => rfl
  | report e rest ih => exact ih
  | ask q next ih =>
    simp only [ask_bind, Program.run]
    rcases serve q d with ⟨stop | reply, d'⟩
    · rfl
    · exact ih reply

end

namespace Handle

variable {mode : Mode} {depth : Nat} {d : Desk} (h : Handle) (operation : String)
  (matcher : ArgumentMatcher) (times : Times)

theorem run_register (outcome : Outcome) :
    (h.register operation matcher outcome times).run (Recorder.serve mode depth) d =
      Recorder.register mode h.saturate operation matcher outcome times d :=
  (Recording.run_request _).trans (by rw [Recorder.serve])

theorem run_invoke (arguments : List Json) :
    (h.invoke operation arguments).run (Recorder.serve mode depth) d =
      Recorder.serve mode depth (.invoke h.saturate operation arguments) d :=
  Recording.run_request _

theorem run_verify :
    (h.verify operation matcher times).run (Recorder.serve mode depth) d =
      Recorder.verify operation matcher times d :=
  (Recording.run_request _).trans (by rw [Recorder.serve])

theorem run_verifyAll :
    h.verifyAll.run (Recorder.serve mode depth) d =
      (.ok (Recorder.verifyAll d).1, (Recorder.verifyAll d).2) :=
  (Recording.run_request _).trans (by rw [Recorder.serve])

theorem run_verifyNoOtherCalls :
    h.verifyNoOtherCalls.run (Recorder.serve mode depth) d =
      (.ok (Recorder.verifyNoOtherCalls d).1, (Recorder.verifyNoOtherCalls d).2) :=
  (Recording.run_request _).trans (by rw [Recorder.serve])

theorem run_calls : h.calls.run (Recorder.serve mode depth) d = (.ok d.book.calls, d) :=
  (Recording.run_request _).trans (by rw [Recorder.serve])

theorem run_callsTo :
    (h.callsTo operation).run (Recorder.serve mode depth) d =
      (.ok (d.book.calls.filter (·.operation == operation)), d) := by
  rw [callsTo, Program.run_bind_done, run_calls]
  rfl

theorem run_expectations :
    h.expectations.run (Recorder.serve mode depth) d =
      (.ok (d.book.expectations.map Expectation.summary), d) :=
  (Recording.run_request _).trans (by rw [Recorder.serve])

end Handle

namespace Surface

variable {mode : Mode} {depth : Nat} {d : Desk} (s : Surface) (method : String)

/-- A call whose arguments cannot be encoded is not made. -/
theorem run_invokeWith_error {q : Payload} {reason : DecodeError}
    (hq : encodeArguments q = .error reason) :
    (s.invokeWith method q).run (Recorder.serve mode depth) d =
      (.ok (.error (.encoding (s.operation method) reason)), d) := by
  rw [invokeWith, hq]
  rfl

/-- A call with a payload is a request with the arguments that it stands for. -/
theorem run_invokeWith {q : Payload} {ws : List Json} (hq : encodeArguments q = .ok ws) :
    (s.invokeWith method q).run (Recorder.serve mode depth) d =
      Recorder.serve mode depth (.invoke s.handle.saturate (s.operation method) ws) d := by
  rw [invokeWith, hq]
  exact s.handle.run_invoke (s.operation method) ws

/-- The calls to a surface are those whose operation begins like its own do. -/
theorem run_calls :
    s.calls.run (Recorder.serve mode depth) d =
      (.ok (d.book.calls.filter fun c => Text.startsWith c.operation (s.operation "")), d) := by
  rw [calls, Program.run_bind_done, Handle.run_calls]
  rfl

end Surface
end TestDouble
