import TestDouble.Proofs.Client.Handle
import TestDouble.Proofs.Recorder.Answer
import TestDouble.Proofs.Recorder.Congruence
import TestDouble.Proofs.Recorder.Turn

/-!
# What can be left out of a run

A client works on a recorder by `Command`s. Some of them only look; others fail before they have
done anything: a registration that is refused or cannot be encoded, a call whose arguments cannot
be encoded, a verification whose count is not as it should be. With such an answer a command is
*idle* and leaves the book as it was (`Command.book_of_isIdle`). So a run without its idle commands
gets the same answers to all others and ends with the same book (`idle_commands_invisible`).
-/

namespace TestDouble

/-- What a client can do to a recorder with a handle or a surface, by the type of the answer. -/
inductive Command : Type → Type 1 where
  | register (h : Handle) (operation : String) (matcher : ArgumentMatcher) (outcome : Outcome)
    (times : Times) : Command (Except TestError Nat)
  | invoke (h : Handle) (operation : String) (arguments : List Json) :
    Command (Except TestError Json)
  | verify (h : Handle) (operation : String) (matcher : ArgumentMatcher) (times : Times) :
    Command (Except TestError Unit)
  | verifyAll (h : Handle) : Command (Except TestError Unit)
  | verifyNoOtherCalls (h : Handle) : Command (Except TestError Unit)
  | calls (h : Handle) : Command (List RecordedCall)
  | callsTo (h : Handle) (operation : String) : Command (List RecordedCall)
  | callCount (h : Handle) (operation : String) : Command Nat
  | expectations (h : Handle) : Command (List ExpectationSummary)
  | reset (h : Handle) : Command Unit
  /-- Builds an expectation of a method from its parts and registers it. -/
  | expect (s : Surface) (method : String) (parts : List ExpectationBuilder.Part) :
    Command (Except TestError Nat)
  | surfaceInvoke (s : Surface) (method : String) (arguments : List Json) :
    Command (Except TestError Json)
  | call {α : Type} (s : Surface) (method : String) (codec : Codec α) (arguments : Payload) :
    Command (Except TestError α)
  | callOrDefault {α : Type} (s : Surface) (method : String) (codec : Codec α) (default : α)
    (arguments : Payload) : Command (Except TestError α)
  | surfaceVerify (s : Surface) (method : String) (matcher : ArgumentMatcher) (times : Times) :
    Command (Except TestError Unit)
  | surfaceCalls (s : Surface) : Command (List RecordedCall)
  | surfaceCallsTo (s : Surface) (method : String) : Command (List RecordedCall)

namespace Command

/-- The program of a command. -/
def program : {α : Type} → Command α → Recording α
  | _, register h operation matcher outcome times => h.register operation matcher outcome times
  | _, invoke h operation arguments => h.invoke operation arguments
  | _, verify h operation matcher times => h.verify operation matcher times
  | _, verifyAll h => h.verifyAll
  | _, verifyNoOtherCalls h => h.verifyNoOtherCalls
  | _, calls h => h.calls
  | _, callsTo h operation => h.callsTo operation
  | _, callCount h operation => h.callCount operation
  | _, expectations h => h.expectations
  | _, reset h => h.reset
  | _, expect s method parts => ((s.expect method).addAll parts).register
  | _, surfaceInvoke s method arguments => s.invoke method arguments
  | _, call s method codec arguments => s.call method codec arguments
  | _, callOrDefault s method codec default arguments =>
    s.callOrDefault method codec default arguments
  | _, surfaceVerify s method matcher times => s.verify method matcher times
  | _, surfaceCalls s => s.calls
  | _, surfaceCallsTo s method => s.callsTo method

end Command

namespace TestError

/-- Whether a registration was refused. -/
def isAmbiguous : TestError → Bool
  | ambiguous .. => true
  | _ => false

/-- Whether something could not be encoded. -/
def isEncoding : TestError → Bool
  | encoding .. => true
  | _ => false

/-- Whether a count is not as it should be. -/
def isUnsatisfied : TestError → Bool
  | unsatisfied .. => true
  | _ => false

end TestError

/-- Whether the answer is an error of a kind. -/
def failsWith {α : Type} (kind : TestError → Bool) : Except Stop (Except TestError α) → Bool
  | .ok (.error e) => kind e
  | _ => false

/-- Whether a command that was answered so has only looked, or has failed before it did anything:
by a registration refused, by arguments or a return value that cannot be encoded, or by a
verification that counted wrong. -/
def Command.isIdle : {α : Type} → Command α → Except Stop α → Bool
  | _, register .., answer => failsWith TestError.isAmbiguous answer
  | _, invoke .., _ => false
  | _, verify .., answer => failsWith TestError.isUnsatisfied answer
  | _, verifyAll _, _ => true
  | _, verifyNoOtherCalls _, _ => true
  | _, calls _, _ => true
  | _, callsTo .., _ => true
  | _, callCount .., _ => true
  | _, expectations _, _ => true
  | _, reset _, _ => false
  | _, expect .., answer => failsWith (fun e => e.isAmbiguous || e.isEncoding) answer
  | _, surfaceInvoke .., _ => false
  | _, call .., answer => failsWith TestError.isEncoding answer
  | _, callOrDefault .., answer => failsWith TestError.isEncoding answer
  | _, surfaceVerify .., answer => failsWith TestError.isUnsatisfied answer
  | _, surfaceCalls _, _ => true
  | _, surfaceCallsTo .., _ => true

/-- A command and its answer. -/
structure Exchange where
  {α : Type}
  command : Command α
  answer : Except Stop α

namespace Exchange

/-- The command, whatever the answer. -/
def asked (x : Exchange) : (α : Type) × Command α := ⟨x.α, x.command⟩

/-- Whether the command was idle. -/
def isIdle (x : Exchange) : Bool := x.command.isIdle x.answer

end Exchange

/-- Gives commands one after another: the answers, and the desk at the end. -/
def Command.performAll (mode : Mode) (depth : Nat) :
    List ((α : Type) × Command α) → Desk → List Exchange × Desk
  | [], d => ([], d)
  | c :: cs, d =>
    let (answer, d) := c.2.program.run (Recorder.serve mode depth) d
    let (rest, d) := performAll mode depth cs d
    (⟨c.2, answer⟩ :: rest, d)

/-! ### Idle commands -/

namespace Recorder

variable {mode : Mode} {saturate : Bool} {operation : String} {matcher : ArgumentMatcher}
  {outcome : Outcome} {times : Times} {arguments : List Json} {kind : TestError → Bool} {d : Desk}

/-- A registration that fails leaves the book as it was. -/
theorem register_book_of_failsWith
    (h : failsWith kind (register mode saturate operation matcher outcome times d).1 = true) :
    (register mode saturate operation matcher outcome times d).2.book = d.book := by
  rcases register_cases mode saturate operation matcher outcome times d with
    ⟨-, -, -, hreply, -⟩ | ⟨-, hd⟩
  · rw [hreply] at h
    cases h
  · rw [hd]

/-- A verification that fails leaves the book as it was. -/
theorem verify_book_of_failsWith
    (h : failsWith kind (verify operation matcher times d).1 = true) :
    (verify operation matcher times d).2.book = d.book := by
  rcases verify_cases operation matcher times d with
    ⟨c, hv⟩ | ⟨n, marked, -, -, hv⟩ | ⟨n, marked, -, -, hv⟩
  · rw [hv]
  · rw [hv] at h
    cases h
  · rw [hv]

/-- A call never fails because something could not be encoded. -/
theorem invoke_not_encoding
    (run : Recording (Except Failure Json) → Desk → Except Stop (Except Failure Json) × Desk) :
    failsWith TestError.isEncoding (invoke run mode saturate operation arguments d).1 = false := by
  rcases invoke_cases run mode saturate operation arguments d with
    ⟨c, h⟩ | h | ⟨e, -, -, h⟩ | ⟨e, -, -, h⟩ <;> rw [h]
  · rfl
  · cases mode <;> rfl
  · rfl
  · cases e.outcome with
    | returns v => rfl
    | fails failure => rfl
    | callback body =>
      simp only [apply]
      rcases run (body (e.consumed - 1) arguments) (record mode saturate operation arguments d).2
        with ⟨stop | failure | v, d'⟩ <;> rfl

end Recorder

namespace Surface

variable {α : Type} {mode : Mode} {depth : Nat} {s : Surface} {method : String}
  {arguments : Payload} {d : Desk}

/-- A typed call whose arguments cannot be encoded does nothing, and no other fails so. -/
theorem invokeWith_book_of_failsWith {decode : Json → Except TestError α}
    (hdecode : ∀ v, failsWith TestError.isEncoding (.ok (decode v)) = false)
    (h : failsWith TestError.isEncoding
      (((s.invokeWith method arguments).run (Recorder.serve mode depth) d).1.map (·.bind decode)) =
        true) :
    ((s.invokeWith method arguments).run (Recorder.serve mode depth) d).2.book = d.book := by
  cases he : encodeArguments arguments with
  | error reason => rw [s.run_invokeWith_error method he]
  | ok vs =>
    rw [s.run_invokeWith method he] at h ⊢
    have hinvoke : failsWith TestError.isEncoding (Recorder.serve mode depth
        (.invoke s.handle.saturate (s.operation method) vs) d).1 = false := by
      cases depth <;> exact Recorder.invoke_not_encoding _
    revert h hinvoke
    rcases Recorder.serve mode depth (.invoke s.handle.saturate (s.operation method) vs) d with
      ⟨stop | e | v, d'⟩ <;> intro h hinvoke
    · cases h
    · exact absurd (h.symm.trans hinvoke) Bool.noConfusion
    · exact absurd (h.symm.trans (hdecode v)) Bool.noConfusion

/-- An answer that cannot be read is no failure to encode something. -/
theorem decodeAnswer_not_encoding (codec : Codec α) (v : Json) :
    failsWith TestError.isEncoding (.ok (s.decodeAnswer method codec v)) = false := by
  rw [decodeAnswer]
  cases codec.decode v <;> rfl

end Surface

namespace Command

variable {α : Type} {mode : Mode} {depth : Nat} {d : Desk}

/-- **An idle command leaves the book as it was.** -/
theorem book_of_isIdle (c : Command α)
    (h : c.isIdle (c.program.run (Recorder.serve mode depth) d).1 = true) :
    (c.program.run (Recorder.serve mode depth) d).2.book = d.book := by
  cases c with
  | register handle operation matcher outcome times =>
    simp only [program, Handle.run_register, isIdle] at h ⊢
    exact Recorder.register_book_of_failsWith h
  | invoke => cases h
  | verify handle operation matcher times =>
    simp only [program, Handle.run_verify, isIdle] at h ⊢
    exact Recorder.verify_book_of_failsWith h
  | verifyAll handle =>
    rw [program, Handle.run_verifyAll]
    rfl
  | verifyNoOtherCalls handle =>
    rw [program, Handle.run_verifyNoOtherCalls]
    rfl
  | calls handle => rw [program, Handle.run_calls]
  | callsTo handle operation => rw [program, Handle.run_callsTo]
  | callCount handle operation =>
    rw [program, Handle.callCount, Program.run_bind_done, Handle.run_callsTo]
  | expectations handle => rw [program, Handle.run_expectations]
  | reset => cases h
  | expect s method parts =>
    simp only [program, ExpectationBuilder.register, isIdle] at h ⊢
    cases hf : (s.expect method |>.addAll parts).fault with
    | some reason => rfl
    | none =>
      rw [hf] at h
      simp only [Handle.run_register] at h ⊢
      exact Recorder.register_book_of_failsWith h
  | surfaceInvoke => cases h
  | call s method codec arguments =>
    simp only [program, Surface.call, Program.run_bind_done, isIdle] at h ⊢
    exact Surface.invokeWith_book_of_failsWith (Surface.decodeAnswer_not_encoding codec) h
  | callOrDefault s method codec default arguments =>
    simp only [program, Surface.callOrDefault, Program.run_bind_done, isIdle] at h ⊢
    refine Surface.invokeWith_book_of_failsWith (fun v => ?_) h
    cases v with
    | null => rfl
    | _ => exact Surface.decodeAnswer_not_encoding codec _
  | surfaceVerify s method matcher times =>
    simp only [program, Surface.verify, Handle.run_verify, isIdle] at h ⊢
    exact Recorder.verify_book_of_failsWith h
  | surfaceCalls s => rw [program, Surface.calls, Program.run_bind_done, Handle.run_calls]
  | surfaceCallsTo s method => rw [program, Surface.callsTo, Handle.run_callsTo]

/-! ### Runs -/

/-- Commands look only at the book. -/
theorem performAll_congr (mode : Mode) (depth : Nat) (cs : List ((α : Type) × Command α))
    {s l : Desk} (hb : s.book = l.book) :
    (performAll mode depth cs s).1 = (performAll mode depth cs l).1 ∧
      (performAll mode depth cs s).2.book = (performAll mode depth cs l).2.book := by
  induction cs generalizing s l with
  | nil => exact ⟨rfl, hb⟩
  | cons c cs ih =>
    obtain ⟨hanswer, hbook⟩ := Recorder.run_congr
      (fun q _ _ h => Recorder.serve_congr mode depth q h) c.2.program hb
    obtain ⟨hrest, hafter⟩ := ih hbook
    simp only [performAll, hanswer, hrest, true_and]
    exact hafter

end Command

/-- **Idle commands are invisible.** Leave out of a run all commands that only looked or that failed
before they did anything. All others are answered as before, and the book at the end is the same. -/
theorem idle_commands_invisible (mode : Mode) (depth : Nat) (cs : List ((α : Type) × Command α))
    (d : Desk) :
    let run := Command.performAll mode depth cs d
    let kept := run.1.filter (!·.isIdle)
    let again := Command.performAll mode depth (kept.map Exchange.asked) d
    again.1 = kept ∧ again.2.book = run.2.book := by
  induction cs generalizing d with
  | nil => exact ⟨rfl, rfl⟩
  | cons c cs ih =>
    intro run kept again
    let begun := c.2.program.run (Recorder.serve mode depth) d
    let rest := Command.performAll mode depth cs begun.2
    let others := rest.1.filter (!·.isIdle)
    have hrun : run = (⟨c.2, begun.1⟩ :: rest.1, rest.2) := rfl
    obtain ⟨hanswers, hbook⟩ := ih begun.2
    cases hidle : c.2.isIdle begun.1 with
    | true =>
      have hkept : kept = others := by simp [kept, others, hrun, Exchange.isIdle, hidle]
      have hagain : again = Command.performAll mode depth (others.map Exchange.asked) d :=
        congrArg (fun k => Command.performAll mode depth (k.map Exchange.asked) d) hkept
      -- the commands after it find the same book without it
      obtain ⟨hsame, hafter⟩ := Command.performAll_congr mode depth (others.map Exchange.asked)
        (Command.book_of_isIdle c.2 hidle)
      rw [hagain, hkept]
      exact ⟨hsame.symm.trans hanswers, hafter.symm.trans hbook⟩
    | false =>
      have hkept : kept = ⟨c.2, begun.1⟩ :: others := by
        simp [kept, others, hrun, Exchange.isIdle, hidle]
      have hagain : again = Command.performAll mode depth (c :: others.map Exchange.asked) d :=
        congrArg (fun k => Command.performAll mode depth (k.map Exchange.asked) d) hkept
      rw [hagain, hkept]
      exact ⟨congrArg (fun answered => (⟨c.2, begun.1⟩ : Exchange) :: answered) hanswers, hbook⟩

/-- A second registration is refused, arguments cannot be encoded, a count is wrong, and all
expectations are looked at: only the first registration and the calls are left. -/
example :
    let h : Handle := ⟨.strict, true, "::"⟩
    let s := h.surface "users"
    let cs : List ((α : Type) × Command α) :=
      [⟨_, .register h "users::find" ⟨[.any]⟩ (.returns .null) .anyNumber⟩,
        ⟨_, .register h "users::find" ⟨[.any]⟩ (.returns .null) .once⟩,
        ⟨_, .expect s "find" [.returns (.unencodable "no")]⟩,
        ⟨_, .call s "find" .u8 (.unencodable "no")⟩,
        ⟨_, .surfaceInvoke s "find" [.null]⟩,
        ⟨_, .verify h "users::find" ⟨[.any]⟩ .never⟩,
        ⟨_, .expectations h⟩,
        ⟨_, .invoke h "users::save" []⟩]
    ((Command.performAll .strict 0 cs (.ofBook .empty)).1.map Exchange.isIdle) =
      [false, true, true, true, false, true, true, false] := rfl

end TestDouble
